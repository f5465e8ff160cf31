import Scoping.Fault
import Scoping.Text.Quoted

namespace Scoping

/-- A name with its fields, each with a name of its own. -/
def labelled (name : String) (fields : List (String × String)) : String :=
  if fields.isEmpty then name
  else
    let texts := fields.map fun field => field.1 ++ ": " ++ field.2
    name ++ " \x7b " ++ ", ".intercalate texts ++ " \x7d"

def Handle.detail (handle : Handle) : String :=
  labelled "ScopeHandle"
    [("serial", toString handle.serial.toNat), ("depth", toString handle.depth)]

def SymbolRef.detail (symbol : SymbolRef) : String :=
  labelled "SymbolId" [("scope", symbol.scope.detail), ("symbol", symbol.symbol.text)]

def NameProblem.detail : NameProblem → String
  | empty => "Empty"
  | tooLong length max =>
    labelled "TooLong" [("length", toString length), ("max", toString max)]

namespace Fault

def title : Fault → String
  | duplicate .. => "DuplicateSymbol"
  | scopeMismatch .. => "ScopeMismatch"
  | noOpenScope => "NoActiveScope"
  | closedScope _ => "InactiveScope"
  | invalidName .. => "InvalidName"
  | tagTooLong .. => "TagTooLong"
  | invalidLine _ => "InvalidLine"
  | addressesExhausted _ => "AddressSpaceExhausted"
  | unresolved .. => "UnresolvedSymbol"
  | missingSymbol _ => "MissingSymbol"

def fields : Fault → List (String × String)
  | duplicate name scope firstDeclaredAt redeclaredAt existing =>
    [("name", Text.quoted name), ("scope", scope.detail),
     ("first_declared_at", toString firstDeclaredAt), ("redeclared_at", toString redeclaredAt),
     ("existing", existing.detail)]
  | scopeMismatch expected found => [("expected", expected.detail), ("found", found.detail)]
  | noOpenScope => []
  | closedScope scope => [("handle", scope.detail)]
  | invalidName name line problem =>
    [("name", Text.quoted name), ("line", toString line), ("problem", problem.detail)]
  | tagTooLong name tag line max =>
    [("name", Text.quoted name), ("tag", Text.quoted tag), ("line", toString line),
     ("max", toString max)]
  | invalidLine name => [("name", Text.quoted name)]
  | addressesExhausted scope => [("scope", scope.detail)]
  | unresolved name line => [("name", Text.quoted name), ("line", toString line)]
  | missingSymbol missing =>
    [("len", toString missing.size), ("index", toString missing.index)]

/-- The fields of a fault form a value of their own, which bears the same title. -/
def detail (fault : Fault) : String :=
  fault.title ++ "(" ++ labelled fault.title fault.fields ++ ")"

end Fault

end Scoping
