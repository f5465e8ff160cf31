import Scoping.Proofs.Commands

namespace Scoping.Script

namespace Command

variable {stack after : Stack} {line : Nat}

theorem runExit_eq_ok_iff :
    runExit stack = .ok after ↔ ∃ handle, stack.innermost = .ok handle ∧
      stack.exit handle = .ok after := by
  unfold runExit
  cases stack.innermost <;> simp

theorem runDeclare_eq_ok_iff {name type kind : String} :
    runDeclare stack line name type kind = .ok after ↔
      ∃ handle symbol, stack.innermost = .ok handle ∧
        stack.limits.tagsFault? name line [type, kind] = none ∧
        stack.declare handle (declaration name type kind line) = .ok (symbol, after) := by
  unfold runDeclare
  cases stack.innermost with
  | error fault => simp
  | ok handle =>
    cases stack.limits.tagsFault? name line [type, kind] with
    | some fault => simp
    | none =>
      cases hdeclared : stack.declare handle (declaration name type kind line) with
      | error fault => simp [hdeclared, Except.map]
      | ok declared =>
        obtain ⟨symbol, next⟩ := declared
        simp [hdeclared, Except.map]

theorem exists_calls_of_run {command : Command} {text : String}
    (h : command.run stack line = .ok (after, text)) :
    ∃ calls : List Call, calls.length ≤ 1 ∧ after = Call.performAll stack calls := by
  cases command with
  | enter =>
    simp only [run, Except.ok.injEq, Prod.mk.injEq] at h
    exact ⟨[.enter], Nat.le_refl _, h.1.symm⟩
  | exit =>
    cases hexit : runExit stack with
    | error fault => simp [run, hexit, Except.map] at h
    | ok next =>
      simp only [run, hexit, Except.map, Except.ok.injEq, Prod.mk.injEq] at h
      obtain ⟨handle, _, hclosed⟩ := runExit_eq_ok_iff.mp hexit
      refine ⟨[.exit handle], Nat.le_refl _, ?_⟩
      simp [Call.perform_exit, hclosed, h.1]
  | declare name type kind =>
    cases hdeclare : runDeclare stack line name type kind with
    | error fault => simp [run, hdeclare, Except.map] at h
    | ok next =>
      simp only [run, hdeclare, Except.map, Except.ok.injEq, Prod.mk.injEq] at h
      obtain ⟨handle, symbol, _, _, hdeclared⟩ := runDeclare_eq_ok_iff.mp hdeclare
      refine ⟨[.declare handle (declaration name type kind line)], Nat.le_refl _, ?_⟩
      simp [Call.perform_declare, hdeclared, h.1]
  | resolve name =>
    cases hresolve : runResolve stack line name with
    | error fault => simp [run, hresolve, Except.map] at h
    | ok printed =>
      simp only [run, hresolve, Except.map, Except.ok.injEq, Prod.mk.injEq] at h
      exact ⟨[], Nat.zero_le _, h.1.symm⟩
  | dump =>
    simp only [run, Except.ok.injEq, Prod.mk.injEq] at h
    exact ⟨[], Nat.zero_le _, h.1.symm⟩

end Command

namespace Session

variable (session : Session)

@[simp] theorem stack_record (entries : List Entry) :
    (session.record entries).stack = session.stack := rfl

@[simp] theorem stack_send (write : Sink → Except Sink Sink) :
    (session.send write).stack = session.stack := by
  unfold send
  split <;> rfl

@[simp] theorem stack_print (text : String) : (session.print text).stack = session.stack := by
  unfold print
  split
  · rfl
  · exact session.stack_send _

@[simp] theorem stack_refuse (line : Nat) (fault : Fault) :
    (session.refuse line fault).stack = session.stack := by
  unfold refuse
  split <;> rfl

theorem exists_calls_runLine (line : Nat) (text : String) :
    ∃ calls : List Call, calls.length ≤ 1 ∧
      (session.runLine line text).stack = Call.performAll session.stack calls := by
  unfold runLine
  split
  · exact ⟨[], Nat.zero_le _, rfl⟩
  · exact ⟨[], Nat.zero_le _, rfl⟩
  · next command _ =>
    rw [runCommand_eq]
    unfold settle
    split
    · exact ⟨[], Nat.zero_le _, by simp⟩
    · next after printed hrun =>
      obtain ⟨calls, hlength, hcalls⟩ := Command.exists_calls_of_run hrun
      exact ⟨calls, hlength, by simp [hcalls]⟩

/-- The stack of a replay is reached by calls, no more of them than there are lines. -/
theorem exists_calls_runLines (line : Nat) (lines : List String) :
    ∃ calls : List Call, calls.length ≤ lines.length ∧
      (session.runLines line lines).stack = Call.performAll session.stack calls := by
  induction lines generalizing session line with
  | nil => exact ⟨[], Nat.le_refl _, rfl⟩
  | cons text later ih =>
    unfold runLines
    split
    · obtain ⟨first, hfirst, hstack⟩ := session.exists_calls_runLine line text
      obtain ⟨calls, hlength, hlater⟩ := ih (session.runLine line text) (line + 1)
      refine ⟨first ++ calls, ?_, ?_⟩
      · rw [List.length_append, List.length_cons]
        omega
      · rw [hlater, hstack, Call.performAll_append]
    · exact ⟨[], Nat.zero_le _, rfl⟩

end Session

end Scoping.Script
