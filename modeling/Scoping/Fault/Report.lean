import Scoping.Diagnostic
import Scoping.Fault

namespace Scoping.Fault

def nameHelp : NameProblem → String
  | .empty => "identifiers cannot be empty"
  | .tooLong length max => s!"the identifier is {length} bytes long, at most {max} are allowed"

def report : Fault → Diagnostic
  | duplicate name _ firstDeclaredAt redeclaredAt _ =>
    { Diagnostic.error s!"the symbol `{name}` is already declared in this scope" with
      line := some redeclaredAt
      help := some "declarations in an inner scope may shadow this one"
      notes := [⟨firstDeclaredAt, "previously declared here"⟩] }
  | unresolved name line =>
    (Diagnostic.error s!"the symbol `{name}` is not declared in any open scope").atLine line
  | invalidName name line problem =>
    { Diagnostic.error s!"`{name}` cannot be used as an identifier" with
      line := some line
      help := some (nameHelp problem) }
  | tagTooLong name tag line max =>
    { Diagnostic.error s!"the tag `{tag}` of `{name}` is too long" with
      line := some line
      help := some s!"tags are at most {max} bytes long" }
  | fault => .error s!"internal error: {fault.message}"

theorem isError_report (fault : Fault) : fault.report.isError = true := by
  cases fault <;> rfl

end Scoping.Fault
