namespace Scoping.Text

/-- Decodes the first bytes of an encoded text. A character cut in two, which has at most three
bytes left, shows as U+FFFD. -/
def decodeCut (bytes : ByteArray) : String :=
  match String.fromUTF8? bytes with
  | some text => text
  | none =>
    match [1, 2, 3].findSome? fun n => String.fromUTF8? (bytes.extract 0 (bytes.size - n)) with
    | some text => text ++ "\ufffd"
    | none => "\ufffd"

theorem decodeCut_of_fromUTF8 {bytes : ByteArray} {text : String}
    (h : String.fromUTF8? bytes = some text) : decodeCut bytes = text := by
  simp [decodeCut, h]

end Scoping.Text
