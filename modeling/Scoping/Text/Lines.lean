namespace Scoping.Text

def dropReturn (line : List Char) : List Char :=
  if line.getLast? = some '\r' then line.dropLast else line

/-- The lines of a text from its pieces between line feeds: all but the last ended at one. -/
def linesOfPieces : List (List Char) → List (List Char)
  | [] => []
  | [last] => if last.isEmpty then [] else [last]
  | piece :: next :: later => dropReturn piece :: linesOfPieces (next :: later)

def lines (text : List Char) : List (List Char) := linesOfPieces (text.splitOn '\n')

@[simp] theorem lines_nil : lines [] = [] := rfl

theorem linesOfPieces_cons (piece : List Char) {later : List (List Char)} (h : later ≠ []) :
    linesOfPieces (piece :: later) = dropReturn piece :: linesOfPieces later := by
  cases later with
  | nil => exact absurd rfl h
  | cons => rfl

end Scoping.Text
