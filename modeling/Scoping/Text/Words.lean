import Scoping.Text.Blank

namespace Scoping.Text

def code (line : List Char) : List Char := line.takeWhile (· ≠ '#')

/-- The maximal runs of characters that are not blank. -/
def words (text : List Char) : List (List Char) :=
  (text.splitOnP isBlank).filter fun word => !word.isEmpty

@[simp] theorem words_nil : words [] = [] := rfl

theorem words_append_cons {c : Char} (h : isBlank c = true) (before after : List Char) :
    words (before ++ c :: after) = words before ++ words after := by
  rw [words, List.splitOnP_append_cons before after h, List.filter_append]
  rfl

theorem words_cons_of_isBlank {c : Char} (h : isBlank c = true) (text : List Char) :
    words (c :: text) = words text :=
  words_append_cons h [] text

theorem words_of_forall_not_isBlank {word : List Char} (hne : word ≠ [])
    (h : ∀ c ∈ word, isBlank c = false) : words word = [word] := by
  rw [words, List.splitOnP_eq_singleton h]
  simp [hne]

end Scoping.Text
