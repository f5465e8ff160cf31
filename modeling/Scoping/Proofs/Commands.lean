import Scoping.Proofs.Printing
import Scoping.Proofs.Refusals

namespace Scoping

namespace Stack

variable {stack : Stack} {handle : Handle} {fault : Fault}

theorem isStructural_of_innermost (h : stack.innermost = .error fault) :
    fault.isStructural = true := by
  rw [(innermost_eq_error_iff.mp h).2]
  rfl

theorem isStructural_of_exit (h : stack.exit handle = .error fault) :
    fault.isStructural = true := by
  rw [exit_eq] at h
  split at h
  · next hinnermost =>
    rw [← Except.error.inj h]
    exact isStructural_of_innermost hinnermost
  · split at h
    · simp at h
    · rw [← Except.error.inj h]
      rfl

end Stack

namespace Script

namespace Command

def runDeclare (stack : Stack) (line : Nat) (name type kind : String) : Except Fault Stack :=
  match stack.innermost with
  | .error fault => .error fault
  | .ok scope =>
    match stack.limits.tagsFault? name line [type, kind] with
    | some fault => .error fault
    | none => (stack.declare scope (declaration name type kind line)).map Prod.snd

def runExit (stack : Stack) : Except Fault Stack :=
  match stack.innermost with
  | .error fault => .error fault
  | .ok scope => stack.exit scope

def runResolve (stack : Stack) (line : Nat) (name : String) : Except Fault String :=
  match stack.resolve name with
  | none => .error (.unresolved name line)
  | some found =>
    match stack.get? found with
    | none => .ok ""
    | some symbol => .ok (resolutionText name found symbol)

/-- What a command comes to, apart from any session: the stack that follows and the text printed,
or the fault that it is refused for. -/
def run (stack : Stack) (line : Nat) : Command → Except Fault (Stack × String)
  | enter => .ok (stack.enter.2, "")
  | exit => (runExit stack).map fun stack => (stack, "")
  | declare name type kind => (runDeclare stack line name type kind).map fun stack => (stack, "")
  | resolve name => (runResolve stack line name).map fun text => (stack, text)
  | dump => .ok (stack, stack.dump)

theorem isStructural_of_runExit {stack : Stack} {fault : Fault} (h : runExit stack = .error fault) :
    fault.isStructural = true := by
  unfold runExit at h
  split at h
  · next hinnermost =>
    rw [← Except.error.inj h]
    exact Stack.isStructural_of_innermost hinnermost
  · exact Stack.isStructural_of_exit h

end Command

namespace Session

/-- A structural fault ends the replay, and a semantic one is reported. -/
def refuse (session : Session) (line : Nat) (fault : Fault) : Session :=
  if fault.isStructural then session.abort line fault else session.report fault.report

def write (session : Session) (text : String) : Session :=
  session.send fun sink => sink.write text

def print (session : Session) (text : String) : Session :=
  if text = "" then session else session.write text

variable (session : Session) (line : Nat)

theorem refuse_of_structural {fault : Fault} (structural : fault.isStructural = true) :
    session.refuse line fault = session.abort line fault :=
  if_pos structural

theorem refuse_of_semantic {fault : Fault} (semantic : fault.isStructural = false) :
    session.refuse line fault = session.report fault.report :=
  if_neg (Bool.eq_false_iff.mp semantic)

@[simp] theorem print_empty : session.print "" = session := if_pos rfl

theorem print_of_ne_empty {text : String} (h : text ≠ "") :
    session.print text = session.write text :=
  if_neg h

theorem send_writeDump (stack : Stack) :
    session.send stack.writeDump = session.write stack.dump :=
  congrArg session.send (funext stack.writeDump_eq)

theorem send_resolutionPieces (name : String) (found : SymbolRef) (symbol : Symbol) :
    session.send (fun sink => sink.writeAll (resolutionPieces name found symbol)) =
      session.write (resolutionText name found symbol) :=
  congrArg session.send (funext (writeAll_resolutionPieces name found symbol))

/-- A command as the session runs it: what its run on the stack comes to is printed or refused. -/
def settle (outcome : Except Fault (Stack × String)) : Session :=
  match outcome with
  | .error fault => session.refuse line fault
  | .ok (stack, text) => { session with stack }.print text

theorem runExit_eq :
    session.runExit line =
      session.settle line ((Command.runExit session.stack).map fun stack => (stack, "")) := by
  rw [runExit, Command.runExit]
  cases hinnermost : session.stack.innermost with
  | error fault =>
    have structural := Stack.isStructural_of_innermost hinnermost
    exact (session.refuse_of_structural line structural).symm
  | ok scope =>
    simp only [Stack.tryExit_eq]
    cases hexit : session.stack.exit scope with
    | error fault =>
      have structural := Stack.isStructural_of_exit hexit
      exact (session.refuse_of_structural line structural).symm
    | ok next => exact (print_empty _).symm

variable {name type kind : String}

theorem runDeclare_of_refused {scope : Handle} {fault : Fault}
    (innermost : session.stack.innermost = .ok scope)
    (tags : session.stack.limits.tagsFault? name line [type, kind] = none)
    (refused : session.stack.declare scope (declaration name type kind line) = .error fault) :
    session.runDeclare line name type kind = session.refuse line fault := by
  simp only [runDeclare, innermost, tags, Stack.declareOrReport, Stack.tryDeclare_eq_keeping,
    refused, keeping]
  cases hstructural : fault.isStructural with
  | true =>
    rw [refuse_of_structural _ _ hstructural]
    rfl
  | false =>
    rw [refuse_of_semantic _ _ hstructural]
    rfl

/-- The three ways in which a declaration goes wrong differ in what becomes of the replay, and this
is decided by the kind of fault alone. -/
theorem runDeclare_eq :
    session.runDeclare line name type kind =
      session.settle line ((Command.runDeclare session.stack line name type kind).map
        fun stack => (stack, "")) := by
  rw [Command.runDeclare]
  cases hinnermost : session.stack.innermost with
  | error fault =>
    have structural := Stack.isStructural_of_innermost hinnermost
    rw [runDeclare, hinnermost]
    exact (session.refuse_of_structural line structural).symm
  | ok scope =>
    dsimp only
    cases htags : session.stack.limits.tagsFault? name line [type, kind] with
    | some fault =>
      obtain ⟨tag, _, _, rfl⟩ := Limits.exists_tag_of_tagsFault? htags
      rw [runDeclare, hinnermost]
      simp only [htags]
      rfl
    | none =>
      cases hdeclare : session.stack.declare scope (declaration name type kind line) with
      | ok declared =>
        simp only [runDeclare, hinnermost, htags, Stack.declareOrReport,
          Stack.tryDeclare_eq_keeping, hdeclare]
        exact (print_empty _).symm
      | error fault => exact session.runDeclare_of_refused line hinnermost htags hdeclare

theorem runResolve_of_none (unresolved : session.stack.resolve name = none) :
    session.runResolve line name = session.report (Fault.unresolved name line).report := by
  rw [runResolve, Stack.resolveOrReport, unresolved]
  rfl

theorem runResolve_of_some {found : SymbolRef}
    (resolved : session.stack.resolve name = some found) :
    session.runResolve line name =
      match session.stack.get? found with
      | none => session
      | some symbol => session.write (resolutionText name found symbol) := by
  simp only [← send_resolutionPieces]
  rw [runResolve, Stack.resolveOrReport, resolved]
  rfl

theorem runResolve_eq :
    session.runResolve line name =
      session.settle line ((Command.runResolve session.stack line name).map
        fun text => (session.stack, text)) := by
  rw [Command.runResolve]
  cases hresolve : session.stack.resolve name with
  | none => exact session.runResolve_of_none line hresolve
  | some found =>
    rw [session.runResolve_of_some line hresolve]
    dsimp only
    cases session.stack.get? found with
    | none => exact session.print_empty.symm
    | some symbol =>
      exact (session.print_of_ne_empty (resolutionText_ne_empty name found symbol)).symm

/-- A session runs a command by what the command comes to on its stack. -/
theorem runCommand_eq (command : Command) :
    session.runCommand line command =
      (session.record (command.entries session.stack line)).settle line
        (command.run session.stack line) := by
  cases command with
  | enter => exact (print_empty _).symm
  | exit => exact runExit_eq _ line
  | declare name type kind => exact runDeclare_eq _ line
  | resolve name => exact runResolve_eq _ line
  | dump =>
    refine (send_writeDump _ session.stack).trans ?_
    exact (print_of_ne_empty _ session.stack.dump_ne_empty).symm

end Session

end Script

end Scoping
