namespace Scoping

/-- Items are only ever added at the end, so the identifier of an item is its position and stays
valid for the life of the store. -/
structure Store (α : Type) where
  items : List α := []
  deriving DecidableEq, Repr

namespace Store

@[ext] structure Id (α : Type) where
  index : Nat
  deriving Repr

variable {α : Type}

instance : DecidableEq (Id α) := fun a b => decidable_of_iff (a.index = b.index) Id.ext_iff.symm

instance : Ord (Id α) := ⟨fun a b => compare a.index b.index⟩

def Id.text (id : Id α) : String := "ID(" ++ toString id.index ++ ")"

structure OutOfRange where
  size : Nat
  index : Nat
  deriving DecidableEq, Repr

def OutOfRange.message (fault : OutOfRange) : String :=
  s!"index out of bounds: the len is {fault.size} but the index is {fault.index}"

def empty : Store α := {}

def ofList (items : List α) : Store α := { items }

def size (store : Store α) : Nat := store.items.length

def isEmpty (store : Store α) : Bool := store.items.isEmpty

def freshId (store : Store α) : Id α := ⟨store.size⟩

def insert (store : Store α) (item : α) : Id α × Store α :=
  (store.freshId, { items := store.items ++ [item] })

/-- Inserts an item that depends on its own identifier. -/
def insertWithId (store : Store α) (item : Id α → α) : Id α × Store α :=
  store.insert (item store.freshId)

def get? (store : Store α) (id : Id α) : Option α := store.items[id.index]?

def contains (store : Store α) (id : Id α) : Bool := id.index < store.size

def fetch (store : Store α) (id : Id α) : Except OutOfRange α :=
  match store.get? id with
  | some item => .ok item
  | none => .error ⟨store.size, id.index⟩

/-- Changes an item in place; a store without the item stays as it is. -/
def modify (store : Store α) (id : Id α) (change : α → α) : Store α :=
  { items := store.items.modify id.index change }

def ids (store : Store α) : List (Id α) := (List.range store.size).map Id.mk

def entries (store : Store α) : List (Id α × α) := store.ids.zip store.items

@[simp] theorem size_empty : (empty : Store α).size = 0 := rfl

@[simp] theorem insert_fst (store : Store α) (item : α) :
    (store.insert item).1 = ⟨store.size⟩ := rfl

@[simp] theorem items_insert (store : Store α) (item : α) :
    (store.insert item).2.items = store.items ++ [item] := rfl

@[simp] theorem size_insert (store : Store α) (item : α) :
    (store.insert item).2.size = store.size + 1 := by
  simp [size]

theorem get?_insert (store : Store α) (item : α) (id : Id α) :
    (store.insert item).2.get? id = if id = ⟨store.size⟩ then some item else store.get? id := by
  obtain ⟨i⟩ := id
  simp only [get?, items_insert, Id.mk.injEq, size]
  split
  · next h => simp [h]
  · next h =>
    rcases Nat.lt_or_ge i store.items.length with hi | hi
    · rw [List.getElem?_append_left hi]
    · rw [List.getElem?_eq_none (by simp; omega), List.getElem?_eq_none hi]

theorem get?_eq_none_iff {store : Store α} {id : Id α} :
    store.get? id = none ↔ store.size ≤ id.index := by
  simp [get?, size]

end Store

end Scoping
