import Scoping.Script.Execution
import Scoping.Script.Printing
import Scoping.Stack.Reporting
import Scoping.Text.Lines
import Scoping.Text.Utf8

namespace Scoping.Script

structure Options where
  limits : Limits := {}
  /-- Whether the scopes still open at the end are printed. -/
  dumpAtEnd : Bool := false
  deriving DecidableEq, Repr

inductive Status
  | running
  | aborted
  | sinkFull
  deriving DecidableEq, Repr

/-- A replay under way. Malformed lines and semantic faults become diagnostics and it goes on; a
structural fault ends it, and so does a full sink. -/
structure Session where
  stack : Stack
  sink : Sink
  diagnostics : List Diagnostic := []
  journal : Array Entry := #[]
  status : Status := .running

structure Findings where
  diagnostics : List Diagnostic
  aborted : Bool
  deriving DecidableEq, Repr

def Findings.failed (findings : Findings) : Bool :=
  findings.aborted || findings.diagnostics.any Diagnostic.isError

namespace Session

def report (session : Session) (diagnostic : Diagnostic) : Session :=
  { session with diagnostics := session.diagnostics ++ [diagnostic] }

def record (session : Session) (entries : List Entry) : Session :=
  { session with journal := session.journal ++ entries }

/-- Writes to the sink. The replay is over where the sink is full. -/
def send (session : Session) (write : Sink → Except Sink Sink) : Session :=
  match write session.sink with
  | .ok sink => { session with sink }
  | .error sink => { session with sink, status := .sinkFull }

/-- Ends the replay at a line because of a structural fault. -/
def abort (session : Session) (line : Nat) (fault : Fault) : Session :=
  { (session.report (fault.report.atLine line)).record [.aborted line fault] with
    status := .aborted }

def receive (collector : Collector Diagnostic) (fault : Fault) : Id (Collector Diagnostic) :=
  collector.pushReport fault

def runExit (session : Session) (line : Nat) : Session :=
  match session.stack.innermost with
  | .error fault => session.abort line fault
  | .ok scope =>
    match session.stack.tryExit scope with
    | (.ok _, stack) => { session with stack }
    | (.error fault, stack) => { session with stack }.abort line fault

/-- Tags are measured as they were written: a long alias is reported even though the tag it stands
for would be stored without its spelling. -/
def runDeclare (session : Session) (line : Nat) (name type kind : String) : Session :=
  match session.stack.innermost with
  | .error fault => session.abort line fault
  | .ok scope =>
    match session.stack.limits.tagsFault? name line [type, kind] with
    | some fault => session.report fault.report
    | none =>
      let (answer, stack, collector) := Id.run <| session.stack.declareOrReport receive scope
        (declaration name type kind line) ⟨session.diagnostics⟩
      let session := { session with stack, diagnostics := collector.items }
      match answer with
      | .ok _ => session
      | .error fault => session.abort line fault

def runResolve (session : Session) (line : Nat) (name : String) : Session :=
  let (answer, collector) := Id.run <| session.stack.resolveOrReport receive name line
    ⟨session.diagnostics⟩
  let session := { session with diagnostics := collector.items }
  match answer with
  | none => session
  | some found =>
    match session.stack.get? found with
    | none => session
    | some symbol => session.send fun sink => sink.writeAll (resolutionPieces name found symbol)

def runCommand (session : Session) (line : Nat) (command : Command) : Session :=
  let session := session.record (command.entries session.stack line)
  match command with
  | .enter => { session with stack := session.stack.enter.2 }
  | .exit => session.runExit line
  | .declare name type kind => session.runDeclare line name type kind
  | .resolve name => session.runResolve line name
  | .dump => session.send session.stack.writeDump

def runLine (session : Session) (line : Nat) (text : String) : Session :=
  match Command.ofLine text line with
  | .error fault => session.report fault.report
  | .ok none => session
  | .ok (some command) => session.runCommand line command

/-- Runs the lines of a script from the one with the given number on, as long as the replay is
not over. -/
def runLines (session : Session) (line : Nat) : List String → Session
  | [] => session
  | text :: later =>
    match session.status with
    | .running => (session.runLine line text).runLines (line + 1) later
    | _ => session

def dumpAtEnd (session : Session) (options : Options) : Session :=
  if options.dumpAtEnd then session.send session.stack.writeDump else session

def warnOpenScopes (session : Session) : Session :=
  if session.stack.depth = 0 then session
  else session.report
    (.warning s!"{session.stack.depth} scope(s) left open at the end of the script")

def finish (session : Session) (options : Options) : Session :=
  match session.status with
  | .running => (session.dumpAtEnd options).warnOpenScopes
  | _ => session

def findings? (session : Session) : Option Findings :=
  match session.status with
  | .sinkFull => none
  | status => some ⟨session.diagnostics, status = .aborted⟩

def output (session : Session) : String := Text.decodeCut session.sink.written

end Session

def sourceLines (source : String) : List String :=
  (Text.lines source.toList).map String.ofList

def replay (options : Options) (source : String) (sink : Sink := {}) : Session :=
  let session : Session := { stack := { limits := options.limits }, sink }
  (session.runLines 1 (sourceLines source)).finish options

end Scoping.Script
