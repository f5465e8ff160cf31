import Mathlib.Algebra.Group.Nat.Defs
import Mathlib.Data.List.Nodup
import Mathlib.Data.List.Range
import Scoping.Proofs.Positions

namespace Scoping

theorem Handle.compare_eq_lt {earlier later : Handle}
    (h : earlier.serial.toNat < later.serial.toNat) : compare earlier later = .lt := by
  have hlt : earlier.serial < later.serial := UInt64.lt_iff_toNat_lt.mpr h
  simp only [compare, instOrdHandle.ord, compareOfLessAndEq, if_pos hlt, Ordering.then]

/-- A handle is of no use: it can be neither declared in, looked up in nor closed, and what it
once named is gone. -/
structure Stack.Refuses (stack : Stack) (handle : Handle) : Prop where
  isOpen : stack.isOpen handle = false
  scope : stack.scope handle = .error (.closedScope handle)
  exit : ∀ after, stack.exit handle ≠ .ok after
  takeAddress : stack.takeAddress handle = .error (.closedScope handle)
  declare : ∀ declaration, stack.declare handle declaration = .error (.closedScope handle)
  declareReporting : ∀ declaration,
    (Call.declareReporting handle declaration).perform stack =
      (.refused (.closedScope handle), stack)
  lookupIn : ∀ name, stack.lookupIn handle name = .error (.closedScope handle)
  refsIn : stack.refsIn handle = .error (.closedScope handle)
  get? : ∀ id, stack.get? ⟨handle, id⟩ = none

theorem Stack.Aligned.refuses {stack : Stack} {handle : Handle} (aligned : stack.Aligned)
    (h : handle ∉ stack.handles) : stack.Refuses handle := by
  have hopen : stack.isOpen handle = false := by
    rw [← Bool.not_eq_true, aligned.isOpen_iff]
    exact h
  have hscope : stack.scope? handle = none := by
    rwa [isOpen, Option.isSome_eq_false_iff, Option.isNone_iff_eq_none] at hopen
  have herror : stack.scope handle = .error (.closedScope handle) := by
    rw [scope, hscope]
  have hdeclare : ∀ declaration,
      stack.declare handle declaration = .error (.closedScope handle) := by
    intro declaration
    rw [declare_eq, hscope]
  refine ⟨hopen, herror, ?_, ?_, hdeclare, ?_, ?_, ?_, ?_⟩
  · intro after hexit
    obtain ⟨hinnermost, _⟩ := exit_eq_ok_iff.mp hexit
    exact h (List.mem_of_head? (head?_handles.mpr hinnermost))
  · rw [takeAddress_eq, hscope]
  · intro declaration
    rw [Call.perform_declareReporting, hdeclare declaration]
    rfl
  · intro name
    rw [lookupIn, herror]
    rfl
  · rw [refsIn, herror]
    rfl
  · intro id
    rw [get?, hscope]
    rfl

/-- Among distinct handles, leaving out the last one leaves all others. -/
theorem filter_ne_of_nodup_concat {outer : List Handle} {handle : Handle}
    (h : (outer ++ [handle]).Nodup) :
    (outer ++ [handle]).filter (fun other => other ≠ handle) = outer := by
  have hself : [handle].filter (fun other => other ≠ handle) = [] := by simp
  have houter : outer.filter (fun other => other ≠ handle) = outer := by
    rw [List.filter_eq_self]
    intro other hother
    have hne : other ≠ handle :=
      (List.nodup_append.mp h).2.2 other hother handle (List.mem_singleton_self handle)
    simp [hne]
  rw [List.filter_append, hself, houter, List.append_nil]

/-- The stack holds what its history says: serial numbers count the openings, and the open scopes
are those that were opened and not closed. -/
structure Accounted (history : History) (stack : Stack) : Prop where
  nextSerial_eq : stack.nextSerial.toNat = history.opened.length
  serials_eq : history.opened.map (fun handle => handle.serial.toNat) =
    List.range history.opened.length
  closed_subset : ∀ handle ∈ history.closed, handle ∈ history.opened
  handles_eq : stack.scopes.map Scope.handle = history.stillOpen

namespace Accounted

variable {history : History} {stack after : Stack} {event : Event}

theorem start (limits : Limits) : Accounted [] { limits } where
  nextSerial_eq := rfl
  serials_eq := rfl
  closed_subset handle h := by simp [History.closed] at h
  handles_eq := rfl

theorem nodup_opened (accounted : Accounted history stack) : history.opened.Nodup := by
  have h : (history.opened.map fun handle => handle.serial.toNat).Nodup := by
    rw [accounted.serials_eq]
    exact List.nodup_range
  exact List.Nodup.of_map _ h

theorem nodup_stillOpen (accounted : Accounted history stack) : history.stillOpen.Nodup :=
  accounted.nodup_opened.filter _

theorem increasing (accounted : Accounted history stack) :
    history.opened.Pairwise fun earlier later => compare earlier later = .lt := by
  have h : (history.opened.map fun handle => handle.serial.toNat).Pairwise (· < ·) := by
    rw [accounted.serials_eq]
    exact List.pairwise_lt_range
  rw [List.pairwise_map] at h
  exact h.imp Handle.compare_eq_lt

theorem fresh (accounted : Accounted history stack) : stack.enter.1 ∉ history.opened := by
  intro h
  have hmem := List.mem_map_of_mem (f := fun handle : Handle => handle.serial.toNat) h
  rw [accounted.serials_eq, List.mem_range] at hmem
  have hnext := accounted.nextSerial_eq
  simp only [Stack.enter_fst] at hmem
  omega

theorem mem_handles_iff (accounted : Accounted history stack) {handle : Handle} :
    handle ∈ stack.handles ↔ handle ∈ history.opened ∧ handle ∉ history.closed := by
  rw [← History.mem_stillOpen, ← accounted.handles_eq, Stack.handles, List.map_reverse,
    List.mem_reverse]

theorem innermost_iff (accounted : Accounted history stack) {handle : Handle} :
    stack.innermost = .ok handle ↔ history.stillOpen.getLast? = some handle := by
  rw [Stack.innermost_eq_ok_iff, ← accounted.handles_eq, List.getLast?_map]

theorem enter (accounted : Accounted history stack)
    (few : history.opened.length + 1 < UInt64.size) :
    Accounted (history ++ [⟨.enter, .opened stack.enter.1⟩]) stack.enter.2 := by
  have hopened : History.opened (history ++ [⟨.enter, .opened stack.enter.1⟩]) =
      history.opened ++ [stack.enter.1] := History.opened_concat _ _
  have hclosed : History.closed (history ++ [⟨.enter, .opened stack.enter.1⟩]) =
      history.closed := by
    rw [History.closed_concat]
    exact List.append_nil _
  have hnext := accounted.nextSerial_eq
  refine ⟨?_, ?_, ?_, ?_⟩
  · rw [hopened, List.length_append, List.length_singleton]
    show (stack.nextSerial + 1).toNat = _
    rw [UInt64.toNat_add, UInt64.toNat_one, hnext]
    exact Nat.mod_eq_of_lt few
  · rw [hopened, List.map_append, accounted.serials_eq, List.length_append, List.length_singleton,
      List.range_succ, List.map_singleton, Stack.enter_fst, hnext]
  · intro handle h
    rw [hclosed] at h
    rw [hopened, List.mem_append]
    exact Or.inl (accounted.closed_subset handle h)
  · have hnot : stack.enter.1 ∉ history.closed := fun h =>
      accounted.fresh (accounted.closed_subset _ h)
    rw [History.stillOpen, hopened, hclosed, List.filter_append, ← History.stillOpen,
      ← accounted.handles_eq, Stack.scopes_enter, List.map_append]
    simp [hnot, -Stack.enter_fst]

theorem exit (accounted : Accounted history stack) {handle : Handle}
    (innermost : stack.innermost = .ok handle) :
    Accounted (history ++ [⟨.exit handle, .closed⟩])
      { stack with scopes := stack.scopes.dropLast } := by
  have hopened : History.opened (history ++ [⟨.exit handle, .closed⟩]) = history.opened := by
    rw [History.opened_concat]
    exact List.append_nil _
  have hclosed : History.closed (history ++ [⟨.exit handle, .closed⟩]) =
      history.closed ++ [handle] := History.closed_concat _ _
  obtain ⟨outer, houter⟩ := List.getLast?_eq_some_iff.mp (accounted.innermost_iff.mp innermost)
  have hmem : handle ∈ history.stillOpen := by simp [houter]
  refine ⟨?_, ?_, ?_, ?_⟩
  · rw [hopened]
    exact accounted.nextSerial_eq
  · rw [hopened]
    exact accounted.serials_eq
  · intro other h
    rw [hclosed, List.mem_append, List.mem_singleton] at h
    rw [hopened]
    rcases h with h | rfl
    · exact accounted.closed_subset other h
    · exact (History.mem_stillOpen.mp hmem).1
  · have hnodup := accounted.nodup_stillOpen
    rw [houter] at hnodup
    rw [History.stillOpen_concat_of_closed rfl rfl, List.map_dropLast, accounted.handles_eq, houter,
      List.dropLast_concat, filter_ne_of_nodup_concat hnodup]

theorem same (accounted : Accounted history stack) (opened : event.opened? = none)
    (closed : event.closed? = none) (serial : after.nextSerial = stack.nextSerial)
    (handles : after.scopes.map Scope.handle = stack.scopes.map Scope.handle) :
    Accounted (history ++ [event]) after := by
  have hopened : History.opened (history ++ [event]) = history.opened := by simp [opened]
  have hclosed : History.closed (history ++ [event]) = history.closed := by simp [closed]
  refine ⟨?_, ?_, ?_, ?_⟩
  · rw [serial, hopened]
    exact accounted.nextSerial_eq
  · rw [hopened]
    exact accounted.serials_eq
  · rw [hopened, hclosed]
    exact accounted.closed_subset
  · rw [handles, History.stillOpen_concat_of_none opened closed]
    exact accounted.handles_eq

theorem step (accounted : Accounted history stack) (step : Step stack event after)
    (few : (History.opened (history ++ [event])).length < UInt64.size) :
    Accounted (history ++ [event]) after := by
  cases step with
  | enter =>
    rw [History.opened_concat, List.length_append] at few
    exact accounted.enter few
  | exit innermost => exact accounted.exit innermost
  | declare _ found _ declared =>
    have hhandle := (Scope.handle_of_declare declared).trans (Stack.handle_of_scope? found)
    exact accounted.same rfl (Event.closed?_declared _ _) rfl (Stack.map_handle_put found hhandle)
  | takeAddress found taken =>
    have hhandle := (Scope.handle_of_takeAddress taken).trans (Stack.handle_of_scope? found)
    exact accounted.same rfl rfl rfl (Stack.map_handle_put found hhandle)
  | idle idle =>
    exact accounted.same (Event.opened?_of_isIdle idle) (Event.closed?_of_isIdle idle) rfl rfl

end Accounted

namespace Call

theorem opened?_perform (stack : Stack) (call : Call) :
    Event.opened? ⟨call, (perform stack call).1⟩ =
      if call = .enter then some stack.enter.1 else none := by
  cases call with
  | enter => rfl
  | exit handle =>
    rw [perform_exit]
    split <;> rfl
  | declare handle declaration =>
    rw [perform_declare]
    split <;> rfl
  | declareReporting handle declaration =>
    rw [perform_declareReporting]
    split
    · rfl
    · dsimp only
      split <;> rfl
  | takeAddress handle =>
    rw [perform_takeAddress]
    split <;> rfl
  | resolve name => rfl
  | resolveReporting name line =>
    simp only [perform]
    split <;> rfl

theorem length_opened_history (stack : Stack) (calls : List Call) :
    (history stack calls).opened.length = calls.count .enter := by
  induction calls generalizing stack with
  | nil => rfl
  | cons call calls ih =>
    have hcons : (history stack (call :: calls)).opened =
        (Event.opened? ⟨call, (perform stack call).1⟩).toList ++
          (history (perform stack call).2 calls).opened := by
      simp only [history, History.opened, List.filterMap_cons]
      cases Event.opened? ⟨call, (perform stack call).1⟩ <;> rfl
    rw [hcons, List.length_append, ih, opened?_perform, List.count_cons]
    by_cases h : call = .enter
    · simp [h, Nat.add_comm]
    · simp [h]

/-- The induction over runs that open fewer scopes than there are serial numbers. Such a run is
accounted for all along, and each step may use it. -/
theorem bounded_run_induction {P : History → Stack → Prop} {limits : Limits}
    (base : P [] { limits })
    (step : ∀ history stack event after, Accounted history stack → stack.Aligned →
      P history stack → Step stack event after → P (history ++ [event]) after)
    (calls : List Call) (few : calls.count .enter < 2 ^ 64) :
    Accounted (history { limits } calls) (performAll { limits } calls) ∧
      P (history { limits } calls) (performAll { limits } calls) := by
  -- Openings only grow in number, so the bound holds of every part of the run that it holds of.
  have hrun : (performAll { limits } calls).Aligned ∧
      ((history { limits } calls).opened.length < UInt64.size →
        Accounted (history { limits } calls) (performAll { limits } calls) ∧
          P (history { limits } calls) (performAll { limits } calls)) := by
    refine run_induction
      (P := fun history stack => stack.Aligned ∧ (history.opened.length < UInt64.size →
        Accounted history stack ∧ P history stack)) ?_ ?_ calls
    · exact ⟨Stack.aligned_performAll limits [], fun _ => ⟨.start limits, base⟩⟩
    · rintro history stack event after ⟨aligned, ih⟩ hstep
      refine ⟨aligned.step hstep, fun hfew => ?_⟩
      have hbefore : history.opened.length < UInt64.size := by
        rw [History.opened_concat, List.length_append] at hfew
        omega
      obtain ⟨accounted, holds⟩ := ih hbefore
      exact ⟨accounted.step hstep hfew, step _ _ _ _ accounted aligned holds hstep⟩
  apply hrun.2
  rw [length_opened_history]
  exact few

theorem accounted (limits : Limits) (calls : List Call) (few : calls.count .enter < 2 ^ 64) :
    Accounted (history { limits } calls) (performAll { limits } calls) :=
  (bounded_run_induction (P := fun _ _ => True) trivial (fun _ _ _ _ _ _ _ _ => trivial)
    calls few).1

end Call

/-- The life of handles in every run with fewer openings than there are serial numbers: handles
increase and none comes back; the handles of the open scopes are those opened and not closed, the
innermost first; only the innermost can be closed; and a closed handle is refused for good. -/
theorem handle_lifecycle (limits : Limits) (calls : List Call)
    (few : calls.count .enter < 2 ^ 64) :
    let history := Call.history { limits } calls
    let stack := Call.performAll { limits } calls
    (history.opened.Pairwise (fun earlier later => compare earlier later = .lt) ∧
      history.opened.Nodup) ∧
    (∀ handle, (stack.isOpen handle = true ↔ handle ∈ stack.handles) ∧
      ((∃ scope, stack.scope handle = .ok scope) ↔ handle ∈ stack.handles) ∧
      (handle ∈ stack.handles ↔ handle ∈ history.opened ∧ handle ∉ history.closed)) ∧
    (stack.handles = history.stillOpen.reverse ∧
      stack.handles.map Handle.depth = (List.range stack.depth).reverse) ∧
    (∀ handle,
      ((∃ after, stack.exit handle = .ok after) ↔ history.stillOpen.getLast? = some handle) ∧
      (stack.handles = [] → stack.exit handle = .error .noOpenScope) ∧
      (∀ innermost, stack.handles.head? = some innermost → innermost ≠ handle →
        stack.exit handle = .error (.scopeMismatch innermost handle))) ∧
    (∀ (before later : List Call) (handle : Handle), calls = before ++ later →
      handle ∈ (Call.history { limits } before).closed → stack.Refuses handle) := by
  intro history stack
  have accounted : Accounted history stack := Call.accounted limits calls few
  have aligned : stack.Aligned := Stack.aligned_performAll limits calls
  refine ⟨⟨accounted.increasing, accounted.nodup_opened⟩, ?_, ⟨?_, ?_⟩, ?_, ?_⟩
  · intro handle
    refine ⟨aligned.isOpen_iff, ?_, accounted.mem_handles_iff⟩
    rw [← aligned.isOpen_iff, Stack.isOpen, Stack.scope]
    cases stack.scope? handle <;> simp
  · rw [Stack.handles, List.map_reverse, accounted.handles_eq]
  · rw [Stack.handles, List.map_reverse, List.map_reverse, List.map_map, ← aligned.depths]
    rfl
  · intro handle
    refine ⟨?_, ?_, ?_⟩
    · simp only [Stack.exit_eq_ok_iff, accounted.innermost_iff, exists_and_left, exists_eq,
        and_true]
    · intro hnil
      have hscopes : stack.scopes = [] := by simpa [Stack.handles] using hnil
      exact Stack.exit_of_nil hscopes
    · intro innermost hinnermost hne
      exact Stack.exit_of_ne (Stack.head?_handles.mp hinnermost) hne
  · intro before later handle hcalls hclosed
    -- What was closed in the first part of the history is closed in all of it.
    apply aligned.refuses
    rw [accounted.mem_handles_iff]
    rintro ⟨_, hnot⟩
    apply hnot
    show handle ∈ (Call.history { limits } calls).closed
    rw [hcalls, Call.history_append, History.closed, List.filterMap_append, List.mem_append]
    exact Or.inl hclosed

/-- The handle of a scope that was closed is refused although another scope stands in its place. -/
theorem replaced_scope_refuses_handle :
    (Call.performAll {} [.enter, .enter, .exit ⟨1, 1⟩, .enter]).handles = [⟨2, 1⟩, ⟨0, 0⟩] ∧
      (Call.performAll {} [.enter, .enter, .exit ⟨1, 1⟩, .enter]).Refuses ⟨1, 1⟩ := by
  have life := handle_lifecycle {} [.enter, .enter, .exit ⟨1, 1⟩, .enter] (by decide)
  refine ⟨by decide, ?_⟩
  exact life.2.2.2.2 [.enter, .enter, .exit ⟨1, 1⟩] [.enter] ⟨1, 1⟩ rfl (by decide)

end Scoping
