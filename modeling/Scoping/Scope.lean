import Scoping.Fault
import Scoping.NameIndex

namespace Scoping

/-- The symbols declared directly in a scope, in order of declaration, and the counter that gives
them their addresses. -/
structure Scope where
  handle : Handle
  symbols : Store Symbol := .empty
  names : NameIndex := {}
  addresses : AddressCounter := {}
  deriving DecidableEq, Repr

namespace Scope

def size (scope : Scope) : Nat := scope.symbols.size

def isEmpty (scope : Scope) : Bool := scope.symbols.isEmpty

def nextAddress (scope : Scope) : Address := scope.addresses.next

def lookup? (scope : Scope) (name : String) : Option (Store.Id Symbol) := scope.names.find? name

def get? (scope : Scope) (id : Store.Id Symbol) : Option Symbol := scope.symbols.get? id

def ref (scope : Scope) (id : Store.Id Symbol) : SymbolRef := ⟨scope.handle, id⟩

def refs (scope : Scope) : List SymbolRef := scope.symbols.ids.map scope.ref

def lookupRef? (scope : Scope) (name : String) : Option SymbolRef :=
  (scope.lookup? name).map scope.ref

def duplicateFault? (scope : Scope) (declaration : Declaration) : Option Fault :=
  match scope.lookup? declaration.name with
  | none => none
  | some id =>
    match scope.symbols.fetch id with
    | .error missing => some (.missingSymbol missing)
    | .ok first =>
      some (.duplicate declaration.name scope.handle first.line declaration.line (scope.ref id))

def tryTakeAddress (scope : Scope) : Except Fault Address × Scope :=
  match scope.addresses.take with
  | (some address, addresses) => (.ok address, { scope with addresses })
  | (none, addresses) => (.error (.addressesExhausted scope.handle), { scope with addresses })

def add (scope : Scope) (declaration : Declaration) (address : Address) : SymbolRef × Scope :=
  let (id, symbols) := scope.symbols.insert { declaration with index := scope.size, address }
  (scope.ref id, { scope with symbols, names := scope.names.insert declaration.name id })

/-- Declares a name with the next address. A name that is refused takes no address. -/
def tryDeclare (scope : Scope) (declaration : Declaration) : Except Fault SymbolRef × Scope :=
  match scope.duplicateFault? declaration with
  | some fault => (.error fault, scope)
  | none =>
    match scope.tryTakeAddress with
    | (.error fault, scope) => (.error fault, scope)
    | (.ok address, scope) =>
      let (symbol, scope) := scope.add declaration address
      (.ok symbol, scope)

@[simp] theorem handle_add (scope : Scope) (declaration : Declaration) (address : Address) :
    (scope.add declaration address).2.handle = scope.handle := rfl

@[simp] theorem size_add (scope : Scope) (declaration : Declaration) (address : Address) :
    (scope.add declaration address).2.size = scope.size + 1 :=
  Store.size_insert _ _

theorem lookup?_add (scope : Scope) (declaration : Declaration) (address : Address)
    (name : String) :
    (scope.add declaration address).2.lookup? name =
      if name = declaration.name then some ⟨scope.size⟩ else scope.lookup? name :=
  NameIndex.find?_insert _ _ _ _

theorem get?_add (scope : Scope) (declaration : Declaration) (address : Address)
    (id : Store.Id Symbol) :
    (scope.add declaration address).2.get? id =
      if id = ⟨scope.size⟩ then some { declaration with index := scope.size, address }
      else scope.get? id :=
  Store.get?_insert _ _ _

end Scope

end Scoping
