import Scoping.Stack
import Scoping.Text.Alignment

namespace Scoping

/-- The columns of a row. The last one is not padded, and fields wider than their column push the
others to the right. -/
def dumpRow (index name type address line kind : String) : String :=
  "  " ++ Text.column 6 index ++ " " ++ Text.column 17 name ++ " " ++ Text.column 10 type ++ " "
    ++ Text.column 8 address ++ " " ++ Text.column 6 line ++ " " ++ kind ++ "\n"

def Symbol.dump (symbol : Symbol) : String :=
  dumpRow (toString symbol.index) symbol.name symbol.type.spelling (toString symbol.address.toNat)
    (toString symbol.line) symbol.kind.spelling

def Scope.dump (scope : Scope) : String :=
  "scope " ++ scope.handle.text ++ "\n" ++
    if scope.isEmpty then "  (empty)\n"
    else dumpRow "index" "name" "type" "address" "line" "kind"
      ++ String.join (scope.symbols.items.map Symbol.dump)

def Stack.dump (stack : Stack) : String :=
  if stack.scopes.isEmpty then "no open scope\n"
  else String.join (stack.scopes.map Scope.dump)

end Scoping
