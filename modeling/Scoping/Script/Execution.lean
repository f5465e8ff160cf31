import Scoping.Journal
import Scoping.Script.Command

namespace Scoping.Script

def declaration (name type kind : String) (line : Nat) : Declaration :=
  { name, type := .ofWord type, kind := .ofWord kind, line }

/-- What a command writes to the journal of the stack. -/
def Command.entries (stack : Stack) (line : Nat) : Command → List Entry
  | enter => Call.enter.entries stack
  | exit =>
    match stack.innermost with
    | .ok scope => (Call.exit scope).entries stack
    | .error _ => []
  | declare name type kind =>
    match stack.innermost, stack.limits.tagsFault? name line [type, kind] with
    | .ok scope, none =>
      (Call.declareReporting scope (declaration name type kind line)).entries stack
    | _, _ => []
  | resolve name => (Call.resolveReporting name line).entries stack
  | dump => []

end Scoping.Script
