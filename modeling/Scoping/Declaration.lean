import Scoping.AddressCounter
import Scoping.Handle
import Scoping.Store
import Scoping.Tag

namespace Scoping

structure Declaration where
  name : String
  type : TypeTag
  kind : KindTag
  /-- Lines count from one. -/
  line : Nat
  deriving DecidableEq, Repr

/-- The words of a declaration's tags that have no constructor of their own, type first. -/
def Declaration.customTags (declaration : Declaration) : List String :=
  [declaration.type.custom?, declaration.kind.custom?].filterMap id

structure Symbol extends Declaration where
  /-- The number of symbols that were in the scope before. -/
  index : Nat
  address : Address
  deriving DecidableEq, Repr

/-- Names a symbol together with the scope that owns it. -/
structure SymbolRef where
  scope : Handle
  symbol : Store.Id Symbol
  deriving DecidableEq, Ord, Repr

end Scoping
