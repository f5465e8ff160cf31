namespace Scoping

/-- Names one scope of a stack for good. -/
structure Handle where
  /-- The number of scopes that the stack had opened before. -/
  serial : UInt64
  /-- The number of scopes around this one. -/
  depth : Nat
  deriving DecidableEq, Ord, Repr

def Handle.text (handle : Handle) : String :=
  "#" ++ toString handle.serial.toNat ++ " (depth " ++ toString handle.depth ++ ")"

end Scoping
