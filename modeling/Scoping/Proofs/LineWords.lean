import Mathlib.Data.List.TakeWhile
import Scoping.Proofs.Editing

namespace Scoping.Text

def codeWords (line : List Char) : List (List Char) := words (code line)

/-- A line of the given words in order, each of them up to a blank, the comment or the end. -/
inductive Laid : List (List Char) → List Char → Prop
  | nothing : Laid [] []
  | comment (text : List Char) : Laid [] ('#' :: text)
  | blank {c : Char} {words : List (List Char)} {text : List Char} (isBlank : isBlank c = true)
      (later : Laid words text) : Laid words (c :: text)
  | word {word : List Char} {words : List (List Char)} {text : List Char} (nonempty : word ≠ [])
      (plain : ∀ c ∈ word, Text.isBlank c = false ∧ c ≠ '#')
      (ends : ∀ c ∈ text.head?, Text.isBlank c = true ∨ c = '#') (later : Laid words text) :
      Laid (word :: words) (word ++ text)

section Code

variable {c : Char}

theorem ne_hash_of_isBlank (h : isBlank c = true) : c ≠ '#' := by
  rintro rfl
  exact absurd h (by decide)

theorem code_cons (h : c ≠ '#') (text : List Char) : code (c :: text) = c :: code text :=
  List.takeWhile_cons_of_pos (by simpa using h)

theorem code_append {front : List Char} (h : ∀ c ∈ front, c ≠ '#') (text : List Char) :
    code (front ++ text) = front ++ code text :=
  List.takeWhile_append_of_pos (by simpa using h)

theorem codeWords_code (line : List Char) : codeWords (code line) = codeWords line := by
  rw [codeWords, codeWords, code, code, List.takeWhile_idem]

theorem codeWords_cons_of_isBlank (h : isBlank c = true) (line : List Char) :
    codeWords (c :: line) = codeWords line := by
  rw [codeWords, code_cons (ne_hash_of_isBlank h), words_cons_of_isBlank h, codeWords]

/-- A character at the end of a line is part of the comment, if there is one. -/
theorem code_concat (line : List Char) (c : Char) :
    code (line ++ [c]) = code line ∨ code (line ++ [c]) = code line ++ [c] := by
  induction line with
  | nil =>
    by_cases h : c = '#'
    · subst h
      exact Or.inl rfl
    · exact Or.inr (code_cons h [])
  | cons head line ih =>
    by_cases h : head = '#'
    · subst h
      exact Or.inl rfl
    · rw [List.cons_append, code_cons h, code_cons h]
      rcases ih with hcomment | hcode
      · exact Or.inl (by rw [hcomment])
      · exact Or.inr (by rw [hcode, List.cons_append])

theorem codeWords_concat_of_isBlank (h : isBlank c = true) (line : List Char) :
    codeWords (line ++ [c]) = codeWords line := by
  rw [codeWords, codeWords]
  rcases code_concat line c with hcomment | hcode
  · rw [hcomment]
  · rw [hcode, words_append_cons h, words_nil, List.append_nil]

theorem codeWords_dropReturn (line : List Char) : codeWords (dropReturn line) = codeWords line := by
  rw [dropReturn]
  split
  · next hreturn =>
    obtain ⟨front, rfl⟩ := List.getLast?_eq_some_iff.mp hreturn
    rw [List.dropLast_concat, codeWords_concat_of_isBlank (by decide)]
  · rfl

end Code

section Laid

variable {words : List (List Char)} {text : List Char}

/-- A word that ends where the line does, or in front of a blank or a comment, is the first of the
words. -/
theorem codeWords_append {word : List Char} (nonempty : word ≠ [])
    (plain : ∀ c ∈ word, isBlank c = false ∧ c ≠ '#')
    (ends : ∀ c ∈ text.head?, isBlank c = true ∨ c = '#') :
    codeWords (word ++ text) = word :: codeWords text := by
  have hword : Text.words word = [word] :=
    words_of_forall_not_isBlank nonempty fun c hc => (plain c hc).1
  rw [codeWords, code_append fun c hc => (plain c hc).2, codeWords]
  -- Behind the word the code goes on with a blank, or it ends there.
  cases text with
  | nil => rw [show code [] = [] from rfl, List.append_nil, hword, words_nil]
  | cons c text =>
    rcases ends c rfl with hblank | rfl
    · rw [code_cons (ne_hash_of_isBlank hblank), words_append_cons hblank, hword,
        words_cons_of_isBlank hblank, List.singleton_append]
    · rw [show code ('#' :: text) = [] from rfl, List.append_nil, hword, words_nil]

theorem Laid.codeWords_eq (laid : Laid words text) : codeWords text = words := by
  induction laid with
  | nothing | comment => rfl
  | blank isBlank _ ih => rw [codeWords_cons_of_isBlank isBlank, ih]
  | word nonempty plain ends _ ih => rw [codeWords_append nonempty plain ends, ih]

theorem exists_laid (text : List Char) : ∃ words, Laid words text := by
  induction text with
  | nil => exact ⟨[], .nothing⟩
  | cons c text ih =>
    obtain ⟨words, later⟩ := ih
    cases hblank : isBlank c with
    | true => exact ⟨words, .blank hblank later⟩
    | false =>
      by_cases hhash : c = '#'
      · subst hhash
        exact ⟨[], .comment text⟩
      · have plain : ∀ other ∈ [c], isBlank other = false ∧ other ≠ '#' := by
          simpa using ⟨hblank, hhash⟩
        have nonempty := List.cons_ne_nil c []
        -- The character starts a word of its own, or it goes in front of the word that follows.
        cases later with
        | nothing => exact ⟨[[c]], .word nonempty plain (by simp) .nothing⟩
        | comment text => exact ⟨[[c]], .word nonempty plain (by simp) (.comment text)⟩
        | blank isBlank later =>
          exact ⟨[c] :: words, .word nonempty plain (by simp [isBlank]) (.blank isBlank later)⟩
        | @word word words text _ next ends later =>
          refine ⟨(c :: word) :: words, .word (List.cons_ne_nil c word) ?_ ends later⟩
          intro other hother
          rcases List.mem_cons.mp hother with rfl | hmem
          · exact ⟨hblank, hhash⟩
          · exact next other hmem

/-- A line is laid out of the words that it is read as, and of no others. -/
theorem laid_iff : Laid words text ↔ codeWords text = words := by
  constructor
  · exact Laid.codeWords_eq
  · rintro rfl
    obtain ⟨words, laid⟩ := exists_laid text
    rwa [laid.codeWords_eq]

end Laid

/-- What is between two line feeds has the words of the line that it makes, and behind the last line
there are none. -/
theorem codeWords_linesOfPieces (pieces : List (List Char)) (position : Nat) :
    codeWords ((linesOfPieces pieces)[position]?.getD []) =
      codeWords (pieces[position]?.getD []) := by
  induction pieces generalizing position with
  | nil => rfl
  | cons piece later ih =>
    by_cases hlast : later = []
    · subst hlast
      rw [linesOfPieces]
      split
      · next hempty =>
        rw [List.isEmpty_iff.mp hempty]
        cases position <;> rfl
      · rfl
    · rw [linesOfPieces_cons piece hlast]
      cases position with
      | zero => exact codeWords_dropReturn piece
      | succ position => exact ih position

end Scoping.Text
