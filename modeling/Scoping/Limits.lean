namespace Scoping

/-- In bytes of the encoding. What is too long is refused, never cut. -/
structure Limits where
  maxName : Nat := 99
  maxTag : Nat := 9
  deriving DecidableEq, Ord, Repr

inductive NameProblem
  | empty
  | tooLong (length max : Nat)
  deriving DecidableEq, Repr

def NameProblem.message : NameProblem → String
  | empty => "identifiers cannot be empty"
  | tooLong length max => s!"the identifier is {length} bytes long, the limit is {max}"

namespace Limits

def nameProblem? (limits : Limits) (name : String) : Option NameProblem :=
  if name.isEmpty then some .empty
  else if limits.maxName < name.utf8ByteSize then some (.tooLong name.utf8ByteSize limits.maxName)
  else none

def fitsTag (limits : Limits) (tag : String) : Bool := tag.utf8ByteSize ≤ limits.maxTag

end Limits

end Scoping
