namespace Scoping.Text

inductive Alignment
  | left
  | right
  | center
  deriving DecidableEq, Repr

def padding (fill : Char) (width : Nat) : String := String.ofList (List.replicate width fill)

/-- When the free room of centered text is odd, the extra fill stands on the right. -/
def align (alignment : Alignment) (fill : Char) (width : Nat) (text : String) : String :=
  let room := width - text.length
  match alignment with
  | .left => text ++ padding fill room
  | .right => padding fill room ++ text
  | .center => padding fill (room / 2) ++ text ++ padding fill (room - room / 2)

def column (width : Nat) (text : String) : String := align .left ' ' width text

def cut (limit : Option Nat) (text : String) : String :=
  match limit with
  | none => text
  | some limit => String.ofList (text.toList.take limit)

theorem align_of_le_length {width : Nat} {text : String} (h : width ≤ text.length)
    (alignment : Alignment) (fill : Char) : align alignment fill width text = text := by
  cases alignment <;> simp [align, padding, Nat.sub_eq_zero_of_le h]

end Scoping.Text
