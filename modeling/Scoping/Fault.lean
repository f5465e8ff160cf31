import Scoping.Limits
import Scoping.Declaration

namespace Scoping

/-- Why an operation is refused. -/
inductive Fault
  | duplicate (name : String) (scope : Handle) (firstDeclaredAt redeclaredAt : Nat)
      (existing : SymbolRef)
  | scopeMismatch (expected found : Handle)
  | noOpenScope
  | closedScope (scope : Handle)
  | invalidName (name : String) (line : Nat) (problem : NameProblem)
  | tagTooLong (name tag : String) (line max : Nat)
  | invalidLine (name : String)
  | addressesExhausted (scope : Handle)
  | unresolved (name : String) (line : Nat)
  /-- The index of a scope names a symbol that its store does not have. No scope that was built by
  declarations comes to this. -/
  | missingSymbol (missing : Store.OutOfRange)
  deriving DecidableEq, Repr

namespace Fault

/-- Semantic faults are mistakes in the declared program, which a caller collects while it goes on.
Structural ones mean that the stack was driven wrongly. -/
def isStructural : Fault → Bool
  | scopeMismatch .. | noOpenScope | closedScope _ | invalidLine _ | addressesExhausted _
  | missingSymbol _ => true
  | duplicate .. | invalidName .. | tagTooLong .. | unresolved .. => false

def message : Fault → String
  | duplicate name scope firstDeclaredAt _ _ =>
    s!"`{name}` is already declared in scope {scope.text} "
      ++ s!"(first declared at line {firstDeclaredAt})"
  | scopeMismatch expected found =>
    s!"attempted to exit scope {found.text} while the innermost open scope is {expected.text}"
  | noOpenScope => "there is no open scope"
  | closedScope scope => s!"scope {scope.text} is not open"
  | invalidName name line problem =>
    s!"invalid identifier `{name}` at line {line}: {problem.message}"
  | tagTooLong name tag line max =>
    s!"the tag `{tag}` of `{name}` at line {line} is longer than {max} bytes"
  | invalidLine name => s!"the declaration of `{name}` has line 0, lines start at 1"
  | addressesExhausted scope => s!"scope {scope.text} ran out of addresses"
  | unresolved name line => s!"`{name}` at line {line} is not declared in any open scope"
  | missingSymbol missing => missing.message

end Fault

namespace Limits

def tagFault? (limits : Limits) (name : String) (line : Nat) (tag : String) : Option Fault :=
  if limits.fitsTag tag then none else some (.tagTooLong name tag line limits.maxTag)

def tagsFault? (limits : Limits) (name : String) (line : Nat) (tags : List String) :
    Option Fault :=
  tags.findSome? (limits.tagFault? name line)

/-- The first fault of a declaration that can be told without looking at a scope. -/
def declarationFault? (limits : Limits) (declaration : Declaration) : Option Fault :=
  if declaration.line = 0 then some (.invalidLine declaration.name)
  else match limits.nameProblem? declaration.name with
  | some problem => some (.invalidName declaration.name declaration.line problem)
  | none => limits.tagsFault? declaration.name declaration.line declaration.customTags

end Limits

end Scoping
