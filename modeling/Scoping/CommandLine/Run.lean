import Scoping.CommandLine.Arguments
import Scoping.CommandLine.Directory
import Scoping.Diagnostic.Rendering

namespace Scoping.CommandLine

structure Result where
  output : String := ""
  errors : String := ""
  success : Bool
  journal : List Entry := []
  deriving DecidableEq, Repr

def Result.failure (painter : Painter) (message : String) : Result :=
  { errors := (Diagnostic.error message).render painter ++ "\n", success := false }

def renderAll (painter : Painter) (diagnostics : List Diagnostic) : String :=
  String.join (diagnostics.map fun diagnostic => diagnostic.render painter ++ "\n\n")

def brokenPipe : String := "Broken pipe (os error 32)"

/-- A run whose output could not be written shows no diagnostics. -/
def Result.unwritten (painter : Painter) (reason : String) : Result :=
  .failure painter ("failed to write output: " ++ reason)

def report (painter : Painter) (session : Script.Session) : Result :=
  match session.findings? with
  | none =>
    { Result.unwritten painter brokenPipe with
      output := session.output, journal := session.journal.toList }
  | some findings =>
    { output := session.output
      errors := renderAll painter findings.diagnostics
      success := !findings.failed
      journal := session.journal.toList }

/-- Colors are those of the terminal, unless the arguments forbid them. -/
def Arguments.painter (arguments : Arguments) (terminal : Painter) : Painter :=
  if arguments.noColor then .plain else terminal

def run (arguments : Arguments) (source : Except ReadFault String) (terminal : Painter)
    (sink : Script.Sink) : Result :=
  let painter := arguments.painter terminal
  match source with
  | .error fault => .failure painter s!"{arguments.file}: {fault.message}"
  | .ok source =>
    let result := report painter (Script.replay arguments.options source sink)
    { result with journal := .replaying arguments.file :: result.journal }

end Scoping.CommandLine
