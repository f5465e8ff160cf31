import Scoping.Text.Invisible

namespace Scoping.Text

/-- The letter that stands for a character after a backslash. -/
def shortEscape? : Char → Option Char
  | '\x00' => some '0'
  | '\t' => some 't'
  | '\n' => some 'n'
  | '\r' => some 'r'
  | '\x22' => some '\x22'
  | '\\' => some '\\'
  | _ => none

def escapeChar (c : Char) : List Char :=
  match shortEscape? c with
  | some letter => ['\\', letter]
  | none =>
    if isInvisible c then
      ['\\', 'u', '\x7b'] ++ Nat.toDigits 16 c.toNat ++ ['\x7d']
    else [c]

def quoted (text : String) : String :=
  String.ofList (['\x22'] ++ text.toList.flatMap escapeChar ++ ['\x22'])

end Scoping.Text
