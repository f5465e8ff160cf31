import Scoping.Script.Replay

namespace Scoping

namespace Text

theorem length_linesOfPieces_le (pieces : List (List Char)) :
    (linesOfPieces pieces).length ≤ pieces.length := by
  induction pieces with
  | nil => exact Nat.le_refl 0
  | cons piece later ih =>
    by_cases h : later = []
    · subst h
      rw [linesOfPieces]
      split
      · exact Nat.zero_le 1
      · exact Nat.le_refl 1
    · rw [linesOfPieces_cons piece h, List.length_cons, List.length_cons]
      omega

theorem length_splitOn_le (c : Char) (text : List Char) :
    (text.splitOn c).length ≤ text.length + 1 := by
  induction text with
  | nil => exact Nat.le_refl 1
  | cons head text ih =>
    rw [List.splitOn_cons_eq_if_modifyHead, List.length_cons]
    split
    · rw [List.length_cons]
      omega
    · rw [List.length_modifyHead]
      omega

theorem length_lines_le (text : List Char) : (lines text).length ≤ text.length + 1 :=
  Nat.le_trans (length_linesOfPieces_le _) (length_splitOn_le '\n' text)

theorem length_le_utf8ByteSize (text : List Char) :
    text.length ≤ (String.ofList text).utf8ByteSize := by
  induction text with
  | nil => exact Nat.zero_le _
  | cons c text ih =>
    have hsize : (String.ofList (c :: text)).utf8ByteSize =
        c.utf8Size + (String.ofList text).utf8ByteSize := by
      rw [String.ofList_cons, String.utf8ByteSize_append, String.utf8ByteSize_singleton]
    have hpos := c.utf8Size_pos
    rw [hsize, List.length_cons]
    omega

theorem words_of_forall_isBlank {text : List Char} (h : ∀ c ∈ text, isBlank c = true) :
    words text = [] := by
  induction text with
  | nil => rfl
  | cons c text ih =>
    rw [words_cons_of_isBlank (h c List.mem_cons_self)]
    exact ih fun other hother => h other (List.mem_cons_of_mem c hother)

theorem ne_nil_of_mem_words {text word : List Char} (h : word ∈ words text) : word ≠ [] := by
  have hword := (List.mem_filter.mp h).2
  simpa using hword

end Text

namespace TypeTag

theorem eq_of_custom?_ofWord {word kept : String} (h : (ofWord word).custom? = some kept) :
    kept = word := by
  unfold ofWord at h
  split at h <;> simp_all [custom?]

end TypeTag

namespace KindTag

theorem eq_of_custom?_ofWord {word kept : String} (h : (ofWord word).custom? = some kept) :
    kept = word := by
  unfold ofWord at h
  split at h <;> simp_all [custom?]

end KindTag

namespace Script

theorem length_sourceLines_le (source : String) :
    (sourceLines source).length ≤ source.utf8ByteSize + 1 := by
  have hlines := Text.length_lines_le source.toList
  have hbytes := Text.length_le_utf8ByteSize source.toList
  rw [String.ofList_toList] at hbytes
  rw [sourceLines, List.length_map]
  omega

/-- The words of a declaration's tags are among those that the command was given. -/
theorem mem_of_mem_customTags {name type kind tag : String} {line : Nat}
    (h : tag ∈ (declaration name type kind line).customTags) : tag ∈ [type, kind] := by
  have hcustom : (TypeTag.ofWord type).custom? = some tag ∨
      (KindTag.ofWord kind).custom? = some tag := by
    simpa [Declaration.customTags, declaration, eq_comm] using h
  rcases hcustom with htype | hkind
  · rw [TypeTag.eq_of_custom?_ofWord htype]
    exact List.mem_cons_self
  · rw [KindTag.eq_of_custom?_ofWord hkind]
    exact List.mem_cons_of_mem _ List.mem_cons_self

def LineFault.renumber (f : Nat → Nat) : LineFault → LineFault
  | unknownCommand word line => unknownCommand word (f line)
  | wrongArity keyword expected found line => wrongArity keyword expected found (f line)

namespace Command

/-- The number of a line only shows in what is wrong with it. -/
theorem ofLine_map (f : Nat → Nat) (text : String) (line : Nat) :
    ofLine text (f line) = (ofLine text line).mapError (LineFault.renumber f) := by
  unfold ofLine
  split
  · rfl
  · split
    · rfl
    · split <;> rfl

/-- A line of blanks in front of its comment is not a command. -/
theorem ofLine_of_blank_code {text : String}
    (h : ∀ c ∈ Text.code text.toList, Text.isBlank c = true) (line : Nat) :
    ofLine text line = .ok none := by
  rw [ofLine, Text.words_of_forall_isBlank h]
  rfl

theorem ofLine_of_blank {text : String} (h : ∀ c ∈ text.toList, Text.isBlank c = true)
    (line : Nat) : ofLine text line = .ok none := by
  apply ofLine_of_blank_code
  intro c hc
  exact h c ((List.takeWhile_sublist _).subset hc)

theorem eq_of_ofOperands? {keyword : Keyword} {operands : List String} {command : Command}
    (h : ofOperands? keyword operands = some command) :
    keyword = command.keyword ∧ operands = command.operands := by
  unfold ofOperands? at h
  split at h <;> simp at h <;> subst h <;> exact ⟨rfl, rfl⟩

/-- Operands are words, and words are not empty. -/
theorem operand_ne_empty {text operand : String} {line : Nat} {command : Command}
    (h : ofLine text line = .ok (some command)) (operand_mem : operand ∈ command.operands) :
    operand ≠ "" := by
  have hwords : ∀ word ∈ (Text.words (Text.code text.toList)).map String.ofList, word ≠ "" := by
    intro word hword
    obtain ⟨characters, hcharacters, rfl⟩ := List.mem_map.mp hword
    rw [Ne, String.ofList_eq_empty_iff]
    exact Text.ne_nil_of_mem_words hcharacters
  unfold ofLine at h
  split at h
  · simp at h
  · next word operands hsplit =>
    split at h
    · simp at h
    · next keyword _ =>
      split at h
      · simp at h
      · next found hfound =>
        have hcommand : found = command := by simpa using h
        subst hcommand
        rw [hsplit] at hwords
        apply hwords
        rw [(eq_of_ofOperands? hfound).2]
        exact List.mem_cons_of_mem _ operand_mem

end Command

end Script

end Scoping
