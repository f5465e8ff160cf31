namespace Scoping

abbrev Address := UInt64

/-- Hands out addresses in increasing order; `next` is the address to be handed out next. -/
structure AddressCounter where
  next : Address := 0
  deriving DecidableEq, Repr

namespace AddressCounter

/-- The value at which a counter stops. It is never handed out. -/
def limit : Address := 0xFFFFFFFFFFFFFFFF

def succ? (address : Address) : Option Address :=
  if address = limit then none else some (address + 1)

def take (counter : AddressCounter) : Option Address × AddressCounter :=
  match succ? counter.next with
  | none => (none, counter)
  | some next => (some counter.next, { next })

theorem toNat_limit_succ : limit.toNat + 1 = UInt64.size := by decide

theorem toNat_succ_of_ne {address : Address} (h : address ≠ limit) :
    (address + 1).toNat = address.toNat + 1 := by
  have hlt : address.toNat ≠ limit.toNat := fun he => h (UInt64.toNat_inj.mp he)
  have := address.toNat_lt_size
  have := toNat_limit_succ
  rw [UInt64.toNat_add, UInt64.toNat_one]
  exact Nat.mod_eq_of_lt (by simp only [UInt64.size] at *; omega)

theorem take_of_eq {counter : AddressCounter} (h : counter.next = limit) :
    counter.take = (none, counter) := by
  simp [take, succ?, h]

theorem take_of_ne {counter : AddressCounter} (h : counter.next ≠ limit) :
    counter.take = (some counter.next, ⟨counter.next + 1⟩) := by
  simp [take, succ?, h]

end AddressCounter

end Scoping
