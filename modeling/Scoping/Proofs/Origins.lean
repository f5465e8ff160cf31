import Scoping.Proofs.Findings

namespace Scoping.Script

def Session.start (options : Options) (sink : Sink) : Session :=
  { stack := { limits := options.limits }, sink }

/-- The replay comes to the line with the number, on the stack, and runs it. -/
inductive Runs (options : Options) (sink : Sink) (lines : List String) (number : Nat)
    (text : String) (stack : Stack) : Prop
  | line (before after : List String) (split : lines = before ++ text :: after)
      (place : number = before.length + 1)
      (running : ((Session.start options sink).runLines 1 before).status = .running)
      (reached : stack = ((Session.start options sink).runLines 1 before).stack)

inductive Declares (options : Options) (sink : Sink) (lines : List String) (symbol : Symbol) : Prop
  | line {number : Nat} {text : String} {stack next : Stack}
      (runs : Runs options sink lines number text stack) {name type kind : String}
      (read : Command.ofLine text number = .ok (some (.declare name type kind)))
      (run : Command.runDeclare stack number name type kind = .ok next)
      (declared : symbol.toDeclaration = declaration name type kind number)

inductive Reports (options : Options) (sink : Sink) (lines : List String)
    (diagnostic : Diagnostic) : Prop
  | line {number : Nat} {text : String} {stack : Stack}
      (runs : Runs options sink lines number text stack)
      (reported : diagnostic ∈ (lineEffect stack number text).diagnostics)

variable {options : Options} {sink : Sink} {lines : List String}

theorem Runs.append {number : Nat} {text : String} {stack : Stack}
    (runs : Runs options sink lines number text stack) (more : List String) :
    Runs options sink (lines ++ more) number text stack := by
  obtain ⟨before, after, rfl, place, running, reached⟩ := runs
  exact ⟨before, after ++ more, by simp, place, running, reached⟩

theorem Declares.append {symbol : Symbol} (declares : Declares options sink lines symbol)
    (more : List String) : Declares options sink (lines ++ more) symbol := by
  obtain ⟨runs, read, run, declared⟩ := declares
  exact ⟨runs.append more, read, run, declared⟩

theorem Reports.append {diagnostic : Diagnostic}
    (reports : Reports options sink lines diagnostic) (more : List String) :
    Reports options sink (lines ++ more) diagnostic := by
  obtain ⟨runs, reported⟩ := reports
  exact ⟨runs.append more, reported⟩

namespace Session

/-- What holds of a replay that has not begun, of one that is over and of one that is under way
after each line that it runs, holds after any lines. -/
theorem runLines_induction {motive : List String → Session → Prop} (options : Options) (sink : Sink)
    (start : motive [] (start options sink))
    (ended : ∀ before text reached, motive before reached → motive (before ++ [text]) reached)
    (run : ∀ before text, ((Session.start options sink).runLines 1 before).status = .running →
      motive before ((Session.start options sink).runLines 1 before) →
      motive (before ++ [text])
        (((Session.start options sink).runLines 1 before).runLine (before.length + 1) text))
    (lines : List String) : motive lines ((Session.start options sink).runLines 1 lines) := by
  induction lines using List.reverseRecOn with
  | nil => exact start
  | append_singleton before text ih =>
    rw [runLines_append, Nat.add_comm 1]
    by_cases running : ((Session.start options sink).runLines 1 before).status = .running
    · rw [runLines, running]
      exact run before text running ih
    · rw [runLines_of_ne_running running]
      exact ended before text _ ih

theorem diagnostics_send (session : Session) (write : Sink → Except Sink Sink) :
    (session.send write).diagnostics = session.diagnostics := by
  rw [send]
  split <;> rfl

theorem diagnostics_print (session : Session) (text : String) :
    (session.print text).diagnostics = session.diagnostics := by
  rw [print]
  split
  · rfl
  · exact session.diagnostics_send _

/-- What a line reports does not depend on whether the sink has room for what it prints. -/
theorem diagnostics_runLine (session : Session) (line : Nat) (text : String) :
    (session.runLine line text).diagnostics =
      session.diagnostics ++ (lineEffect session.stack line text).diagnostics := by
  cases hread : Command.ofLine text line with
  | error fault =>
    rw [lineEffect_of_error session.stack hread]
    simp only [runLine, hread]
    rfl
  | ok read =>
    cases read with
    | none =>
      rw [lineEffect_of_none session.stack hread, List.append_nil]
      simp only [runLine, hread]
    | some command =>
      rw [lineEffect_of_command session.stack hread]
      simp only [runLine, hread, runCommand_eq]
      cases hrun : command.run session.stack line with
      | ok done =>
        rw [Command.effect_of_ok hrun, List.append_nil]
        exact diagnostics_print _ _
      | error fault =>
        cases hstructural : fault.isStructural with
        | true =>
          rw [Command.effect_of_structural hrun hstructural]
          rw [settle, refuse_of_structural _ _ hstructural]
          rfl
        | false =>
          rw [Command.effect_of_semantic hrun hstructural]
          rw [settle, refuse_of_semantic _ _ hstructural]
          rfl

/-- The end of a script adds no more than a warning. -/
theorem mem_diagnostics_finish {session : Session} {options : Options} {diagnostic : Diagnostic}
    (h : diagnostic ∈ (session.finish options).diagnostics) :
    diagnostic ∈ session.diagnostics ∨ diagnostic.isError = false := by
  have hdump : (session.dumpAtEnd options).diagnostics = session.diagnostics := by
    rw [dumpAtEnd]
    split
    · exact session.diagnostics_send _
    · rfl
  rw [finish] at h
  split at h
  · rw [warnOpenScopes] at h
    split at h
    · exact Or.inl (hdump ▸ h)
    · rcases List.mem_append.mp h with hold | hwarning
      · exact Or.inl (hdump ▸ hold)
      · rw [List.mem_singleton.mp hwarning]
        exact Or.inr rfl
  · exact Or.inl h

theorem reports_runLines (options : Options) (sink : Sink) (lines : List String) :
    ∀ diagnostic ∈ ((start options sink).runLines 1 lines).diagnostics,
      Reports options sink lines diagnostic := by
  apply runLines_induction (motive := fun lines reached =>
    ∀ diagnostic ∈ reached.diagnostics, Reports options sink lines diagnostic) options sink
  · simp [start]
  · exact fun before text reached ih diagnostic h => (ih diagnostic h).append [text]
  · intro before text running ih diagnostic h
    -- A line keeps what was reported before it.
    rw [diagnostics_runLine, List.mem_append] at h
    rcases h with hold | hnew
    · exact (ih diagnostic hold).append [text]
    · exact ⟨⟨before, [], rfl, rfl, running, rfl⟩, hnew⟩

theorem declares_runLines (options : Options) (sink : Sink) (lines : List String) :
    ∀ symbol, ((start options sink).runLines 1 lines).stack.Holds symbol →
      Declares options sink lines symbol := by
  apply runLines_induction (motive := fun lines reached =>
    ∀ symbol, reached.stack.Holds symbol → Declares options sink lines symbol) options sink
  · rintro symbol ⟨scope, hscope, _⟩
    simp [start] at hscope
  · exact fun before text reached ih symbol holds => (ih symbol holds).append [text]
  · intro before text running ih symbol holds
    rw [stack_runLine] at holds
    rcases (lineOutcome _ _ text).holds holds with
      hold | ⟨name, type, kind, read, run, declared⟩
    · exact (ih symbol hold).append [text]
    · exact ⟨⟨before, [], rfl, rfl, running, rfl⟩, read, run, declared⟩

theorem stack_runLines (options : Options) (sink : Sink) (lines : List String) :
    ((start options sink).runLines 1 lines).stack.limits = options.limits ∧
      ((start options sink).runLines 1 lines).stack.Sound ∧
      ((start options sink).runLines 1 lines).stack.Aligned := by
  obtain ⟨calls, _, hstack⟩ := exists_calls_runLines (start options sink) 1 lines
  obtain ⟨hlimits, sound⟩ := Stack.sound_performAll options.limits calls
  rw [hstack]
  exact ⟨hlimits, sound, Stack.aligned_performAll options.limits calls⟩

end Session

end Scoping.Script
