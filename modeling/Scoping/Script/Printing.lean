import Scoping.Script.Sink
import Scoping.Stack.Table

namespace Scoping

def rowPieces (index name type address line kind : String) : List String :=
  ["  ", Text.column 6 index, " ", Text.column 17 name, " ", Text.column 10 type, " ",
    Text.column 8 address, " ", Text.column 6 line, " ", kind, "\n"]

def Symbol.pieces (symbol : Symbol) : List String :=
  rowPieces (toString symbol.index) symbol.name symbol.type.spelling
    (toString symbol.address.toNat) (toString symbol.line) symbol.kind.spelling

open Script

/-- Writes the table of a scope, row after row. A row that does not fit is the last one tried. -/
def Scope.writeDump (scope : Scope) (sink : Sink) : Except Sink Sink := do
  let sink ← sink.writeAll ["scope ", scope.handle.text, "\n"]
  if scope.isEmpty then
    sink.writeAll ["  (empty)\n"]
  else
    let sink ← sink.writeAll (rowPieces "index" "name" "type" "address" "line" "kind")
    scope.symbols.items.foldlM (fun sink symbol => sink.writeAll symbol.pieces) sink

def Stack.writeDump (stack : Stack) (sink : Sink) : Except Sink Sink :=
  if stack.scopes.isEmpty then sink.writeAll ["no open scope\n"]
  else stack.scopes.foldlM (fun sink scope => scope.writeDump sink) sink

namespace Script

def resolutionPieces (name : String) (found : SymbolRef) (symbol : Symbol) : List String :=
  [name, " -> scope ", found.scope.text, ": index ", toString symbol.index, ", address ",
    toString symbol.address.toNat, ", ", symbol.type.spelling, " ", symbol.kind.spelling,
    " declared at line ", toString symbol.line, "\n"]

end Script

end Scoping
