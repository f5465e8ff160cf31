import Scoping.Declaration

namespace Scoping

structure NameIndex where
  entries : List (String × Store.Id Symbol) := []
  deriving DecidableEq, Repr

namespace NameIndex

def find? (index : NameIndex) (name : String) : Option (Store.Id Symbol) :=
  index.entries.lookup name

def insert (index : NameIndex) (name : String) (id : Store.Id Symbol) : NameIndex :=
  { entries := (name, id) :: index.entries }

@[simp] theorem find?_empty (name : String) : find? {} name = none := rfl

theorem find?_insert (index : NameIndex) (name other : String) (id : Store.Id Symbol) :
    (index.insert name id).find? other = if other = name then some id else index.find? other := by
  by_cases h : other = name
  · simp [find?, insert, h]
  · simp [find?, insert, List.lookup_cons, beq_false_of_ne h, h]

end NameIndex

end Scoping
