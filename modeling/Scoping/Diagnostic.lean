namespace Scoping

inductive Severity
  | error
  | warning
  | info
  deriving DecidableEq, Ord, Repr

/-- A line elsewhere that helps to understand a diagnostic. -/
structure Note where
  line : Nat
  message : String
  deriving DecidableEq, Ord, Repr

structure Diagnostic where
  line : Option Nat := none
  message : String
  severity : Severity
  help : Option String := none
  notes : List Note := []
  deriving DecidableEq, Ord, Repr

namespace Diagnostic

def error (message : String) : Diagnostic := { message, severity := .error }

def warning (message : String) : Diagnostic := { message, severity := .warning }

def isError (diagnostic : Diagnostic) : Bool := diagnostic.severity = .error

def atLine (diagnostic : Diagnostic) (line : Nat) : Diagnostic :=
  { diagnostic with line := some line }

end Diagnostic

end Scoping
