import Scoping.Proofs.LineWords

namespace Scoping

namespace Text

structure Blanks where
  text : List Char
  blank : ∀ c ∈ text, isBlank c = true

structure Gap extends Blanks where
  nonempty : text ≠ []

/-- What can be a word of a line. -/
structure IsWord (word : List Char) : Prop where
  nonempty : word ≠ []
  plain : ∀ c ∈ word, isBlank c = false ∧ c ≠ '#'

theorem isWord_iff_all {word : List Char} :
    IsWord word ↔ word ≠ [] ∧ (word.all fun c => !isBlank c && c != '#') = true := by
  have hall : (word.all fun c => !isBlank c && c != '#') = true ↔
      ∀ c ∈ word, isBlank c = false ∧ c ≠ '#' := by simp
  rw [hall]
  exact ⟨fun isWord => ⟨isWord.nonempty, isWord.plain⟩, fun h => ⟨h.1, h.2⟩⟩

instance (word : List Char) : Decidable (IsWord word) := decidable_of_iff' _ isWord_iff_all

/-- Everything on a line but its words. -/
structure Spacing where
  before : Blanks
  /-- In front of each word but the first. -/
  gaps : List Gap
  after : Blanks
  /-- What follows the `#`, if there is one. -/
  comment : Option (List Char)

def ending : Option (List Char) → List Char
  | none => []
  | some comment => '#' :: comment

def writeOthers (gaps : List Gap) (others : List (List Char)) : List Char :=
  (List.zipWith (fun gap word => gap.text ++ word) gaps others).flatten

def Spacing.write (spacing : Spacing) (first : List Char) (others : List (List Char)) : List Char :=
  spacing.before.text ++ first ++ writeOthers spacing.gaps others ++ spacing.after.text
    ++ ending spacing.comment

namespace Blanks

def none : Blanks := ⟨[], List.forall_mem_nil _⟩

def cons (c : Char) (isBlank : isBlank c = true) (blanks : Blanks) : Blanks :=
  ⟨c :: blanks.text, List.forall_mem_cons.mpr ⟨isBlank, blanks.blank⟩⟩

end Blanks

/-- The text has the words, with some spacing around them. -/
def Spaced : List (List Char) → List Char → Prop
  | [], text => ∃ (blanks : Blanks) (comment : Option (List Char)),
      text = blanks.text ++ ending comment
  | first :: others, text => ∃ spacing : Spacing,
      spacing.gaps.length = others.length ∧ text = spacing.write first others

section Laid

variable {words others : List (List Char)} {first text : List Char}

theorem Laid.isWord (laid : Laid words text) : ∀ word ∈ words, IsWord word := by
  induction laid with
  | nothing | comment => exact List.forall_mem_nil _
  | blank _ _ ih => exact ih
  | word nonempty plain _ _ ih => exact List.forall_mem_cons.mpr ⟨⟨nonempty, plain⟩, ih⟩

/-- Between two words of a line there is a blank. -/
theorem before_ne_nil {spacing : Spacing} (isWord : IsWord first)
    (ends : ∀ c ∈ (spacing.write first others).head?, isBlank c = true ∨ c = '#') :
    spacing.before.text ≠ [] := by
  intro hnil
  obtain ⟨c, rest, rfl⟩ := List.exists_cons_of_ne_nil isWord.nonempty
  obtain ⟨hblank, hhash⟩ := isWord.plain c List.mem_cons_self
  have hhead : c ∈ (spacing.write (c :: rest) others).head? := by
    rw [Spacing.write, hnil]
    rfl
  rcases ends c hhead with h | h
  · rw [hblank] at h
    simp at h
  · exact hhash h

/-- The spacing of a line is what is left of it without its words. -/
theorem Laid.spaced (laid : Laid words text) : Spaced words text := by
  induction laid with
  | nothing => exact ⟨.none, none, rfl⟩
  | comment text => exact ⟨.none, some text, rfl⟩
  | @blank c words text isBlank _ ih =>
    cases words with
    | nil =>
      obtain ⟨blanks, comment, rfl⟩ := ih
      exact ⟨blanks.cons c isBlank, comment, rfl⟩
    | cons first others =>
      obtain ⟨spacing, hgaps, rfl⟩ := ih
      exact ⟨{ spacing with before := spacing.before.cons c isBlank }, hgaps, rfl⟩
  | @word word words text _ _ ends later ih =>
    cases words with
    | nil =>
      obtain ⟨blanks, comment, rfl⟩ := ih
      refine ⟨⟨.none, [], blanks, comment⟩, rfl, ?_⟩
      simp [Spacing.write, writeOthers, Blanks.none]
    | cons first others =>
      obtain ⟨spacing, hgaps, rfl⟩ := ih
      -- The blanks in front of the next word are the gap behind this one.
      have hne := before_ne_nil (later.isWord first List.mem_cons_self) ends
      refine ⟨⟨.none, ⟨spacing.before, hne⟩ :: spacing.gaps, spacing.after, spacing.comment⟩,
        congrArg (· + 1) hgaps, ?_⟩
      simp [Spacing.write, writeOthers, Blanks.none]

theorem Laid.append_blanks (laid : Laid words text) (blanks : Blanks) :
    Laid words (blanks.text ++ text) := by
  obtain ⟨characters, blank⟩ := blanks
  induction characters with
  | nil => exact laid
  | cons c characters ih =>
    rw [List.forall_mem_cons] at blank
    exact .blank blank.1 (ih blank.2)

theorem laid_ending (comment : Option (List Char)) : Laid [] (ending comment) := by
  cases comment with
  | none => exact .nothing
  | some comment => exact .comment comment

theorem head?_ending (after : Blanks) (comment : Option (List Char)) :
    ∀ c ∈ (after.text ++ ending comment).head?, isBlank c = true ∨ c = '#' := by
  intro c hc
  obtain ⟨characters, blank⟩ := after
  cases characters with
  | cons head characters =>
    obtain rfl := Option.some.inj hc
    exact Or.inl (blank _ List.mem_cons_self)
  | nil =>
    cases comment with
    | none => simp [ending] at hc
    | some comment => exact Or.inr (Option.some.inj hc).symm

theorem laid_writeOthers {gaps : List Gap} (same : gaps.length = others.length)
    (isWord : ∀ word ∈ others, IsWord word) (after : Blanks) (comment : Option (List Char)) :
    Laid others (writeOthers gaps others ++ (after.text ++ ending comment)) ∧
      ∀ c ∈ (writeOthers gaps others ++ (after.text ++ ending comment)).head?,
        isBlank c = true ∨ c = '#' := by
  induction others generalizing gaps with
  | nil =>
    obtain rfl := List.length_eq_zero_iff.mp same
    exact ⟨(laid_ending comment).append_blanks after, head?_ending after comment⟩
  | cons word others ih =>
    obtain ⟨gap, gaps, rfl⟩ := List.exists_cons_of_length_eq_add_one same
    rw [List.forall_mem_cons] at isWord
    obtain ⟨later, ends⟩ := ih (Nat.succ.inj same) isWord.2
    have hwrite : writeOthers (gap :: gaps) (word :: others) ++ (after.text ++ ending comment) =
        gap.text ++ (word ++ (writeOthers gaps others ++ (after.text ++ ending comment))) := by
      simp [writeOthers]
    rw [hwrite]
    refine ⟨?_, ?_⟩
    · have laid := Laid.word isWord.1.nonempty isWord.1.plain ends later
      exact laid.append_blanks gap.toBlanks
    · obtain ⟨⟨characters, blank⟩, nonempty⟩ := gap
      obtain ⟨head, characters, rfl⟩ := List.exists_cons_of_ne_nil nonempty
      intro c hc
      obtain rfl := Option.some.inj hc
      exact Or.inl (blank _ List.mem_cons_self)

theorem laid_write {spacing : Spacing} (same : spacing.gaps.length = others.length)
    (isWord : ∀ word ∈ first :: others, IsWord word) :
    Laid (first :: others) (spacing.write first others) := by
  rw [List.forall_mem_cons] at isWord
  obtain ⟨later, ends⟩ := laid_writeOthers same isWord.2 spacing.after spacing.comment
  have laid := Laid.word isWord.1.nonempty isWord.1.plain ends later
  have hwrite : spacing.write first others = spacing.before.text ++
      (first ++ (writeOthers spacing.gaps others ++ (spacing.after.text ++
        ending spacing.comment))) := by
    simp only [Spacing.write, List.append_assoc]
  rw [hwrite]
  exact laid.append_blanks spacing.before

theorem codeWords_eq_cons_iff :
    codeWords text = first :: others ↔ (∀ word ∈ first :: others, IsWord word) ∧
      ∃ spacing : Spacing, spacing.gaps.length = others.length ∧
        text = spacing.write first others := by
  rw [← laid_iff]
  constructor
  · intro laid
    exact ⟨laid.isWord, laid.spaced⟩
  · rintro ⟨isWord, spacing, same, rfl⟩
    exact laid_write same isWord

theorem codeWords_eq_nil_iff : codeWords text = [] ↔ ∀ c ∈ code text, isBlank c = true := by
  constructor
  · intro hnil c hc
    obtain ⟨blanks, comment, rfl⟩ := (laid_iff.mpr hnil).spaced
    have hcode : code (blanks.text ++ ending comment) = blanks.text := by
      rw [code_append fun c hc => ne_hash_of_isBlank (blanks.blank c hc)]
      cases comment <;> exact List.append_nil _
    rw [hcode] at hc
    exact blanks.blank c hc
  · exact words_of_forall_isBlank

end Laid

end Text

namespace Script

/-- The text is a word and its operands, with blanks between them, perhaps more blanks around them,
and perhaps a comment at the end. -/
structure Written (text word : String) (operands : List String) : Prop where
  isWord : ∀ part ∈ word :: operands, Text.IsWord part.toList
  spaced : ∃ spacing : Text.Spacing, spacing.gaps.length = operands.length ∧
    text.toList = spacing.write word.toList (operands.map String.toList)

def Command.write (spacing : Text.Spacing) (command : Command) : String :=
  String.ofList
    (spacing.write command.keyword.spelling.toList (command.operands.map String.toList))

inductive Command.Reading (text : String) (line : Nat) : Except LineFault (Option Command) → Prop
  | nothing (blank : ∀ c ∈ text.toList.takeWhile (· ≠ '#'), Text.isBlank c = true) :
      Reading text line (.ok none)
  | command {command : Command}
      (written : Written text command.keyword.spelling command.operands) :
      Reading text line (.ok (some command))
  | wrongArity {keyword : Keyword} {operands : List String}
      (written : Written text keyword.spelling operands)
      (other : operands.length ≠ keyword.arity) :
      Reading text line (.error (.wrongArity keyword keyword.arity operands.length line))
  | unknownCommand {word : String} {operands : List String} (written : Written text word operands)
      (foreign : ∀ keyword : Keyword, word ≠ keyword.spelling) :
      Reading text line (.error (.unknownCommand word line))

section Reading

variable {text word : String} {operands : List String} {line : Nat} {keyword : Keyword}
  {command : Command}

theorem written_iff :
    Written text word operands ↔
      (Text.codeWords text.toList).map String.ofList = word :: operands := by
  have hstrings : (Text.codeWords text.toList).map String.ofList = word :: operands ↔
      Text.codeWords text.toList = word.toList :: operands.map String.toList := by
    constructor
    · intro h
      rw [← List.map_cons, ← h, List.map_map]
      simp
    · intro h
      rw [h, List.map_cons, List.map_map]
      simp
  rw [hstrings, Text.codeWords_eq_cons_iff, List.length_map, ← List.map_cons,
    List.forall_mem_map]
  exact ⟨fun written => ⟨written.isWord, written.spaced⟩, fun h => ⟨h.1, h.2⟩⟩

theorem Keyword.ofWord?_eq_some_iff : ofWord? word = some keyword ↔ word = keyword.spelling := by
  constructor
  · intro h
    unfold ofWord? at h
    split at h
    case h_6 => simp at h
    all_goals
      obtain rfl := Option.some.inj h
      rfl
  · rintro rfl
    exact ofWord?_spelling keyword

theorem Keyword.ofWord?_eq_none_iff :
    ofWord? word = none ↔ ∀ keyword : Keyword, word ≠ keyword.spelling := by
  rw [Option.eq_none_iff_forall_ne_some]
  simp only [ne_eq, Keyword.ofWord?_eq_some_iff]

namespace Command

/-- A command has as many operands as its keyword takes. -/
theorem ofOperands?_eq_none_iff :
    ofOperands? keyword operands = none ↔ operands.length ≠ keyword.arity := by
  rcases operands with _ | ⟨first, _ | ⟨second, _ | ⟨third, _ | ⟨fourth, later⟩⟩⟩⟩ <;>
    cases keyword <;> simp [ofOperands?, Keyword.arity]

theorem reading_ofLine (text : String) (line : Nat) : Reading text line (ofLine text line) := by
  unfold ofLine
  split
  · next hnil => exact .nothing (Text.codeWords_eq_nil_iff.mp (List.map_eq_nil_iff.mp hnil))
  · next word operands hwords =>
    have written := written_iff.mpr hwords
    split
    · next hunknown => exact .unknownCommand written (Keyword.ofWord?_eq_none_iff.mp hunknown)
    · next keyword hkeyword =>
      obtain rfl := Keyword.ofWord?_eq_some_iff.mp hkeyword
      split
      · next hnone => exact .wrongArity written (ofOperands?_eq_none_iff.mp hnone)
      · next command hcommand =>
        obtain ⟨rfl, rfl⟩ := eq_of_ofOperands? hcommand
        exact .command written

theorem Reading.ofLine_eq {outcome : Except LineFault (Option Command)}
    (reading : Reading text line outcome) : ofLine text line = outcome := by
  cases reading with
  | nothing blank => exact ofLine_of_blank_code blank line
  | @command command written =>
    have hwords : (Text.words (Text.code text.toList)).map String.ofList = _ :=
      written_iff.mp written
    simp only [ofLine, hwords, Keyword.ofWord?_spelling, ofOperands?_operands]
  | @wrongArity keyword operands written other =>
    have hwords : (Text.words (Text.code text.toList)).map String.ofList = _ :=
      written_iff.mp written
    simp only [ofLine, hwords, Keyword.ofWord?_spelling, ofOperands?_eq_none_iff.mpr other]
  | @unknownCommand word operands written foreign =>
    have hwords : (Text.words (Text.code text.toList)).map String.ofList = _ :=
      written_iff.mp written
    simp only [ofLine, hwords, Keyword.ofWord?_eq_none_iff.mpr foreign]

theorem reading_iff {outcome : Except LineFault (Option Command)} :
    Reading text line outcome ↔ ofLine text line = outcome := by
  constructor
  · exact Reading.ofLine_eq
  · rintro rfl
    exact reading_ofLine text line

theorem isWord_spelling (keyword : Keyword) : Text.IsWord keyword.spelling.toList := by
  cases keyword <;> decide

end Command

end Reading

/-- What every line is read as. It is a command exactly if it is the keyword of the command and its
operands, as words in this order and with some spacing around them; it is nothing exactly if there
are only blanks in front of its comment; a keyword with another number of words behind it has the
wrong number of operands, and any other first word is unknown. So each command with operands that
can be words is read back from any line that it is written as. -/
theorem lines_follow_grammar (text : String) (line : Nat) :
    (∀ command, Command.ofLine text line = .ok (some command) ↔
      Written text command.keyword.spelling command.operands) ∧
    (Command.ofLine text line = .ok none ↔
      ∀ c ∈ text.toList.takeWhile (· ≠ '#'), Text.isBlank c = true) ∧
    (∀ keyword expected found number,
      Command.ofLine text line = .error (.wrongArity keyword expected found number) ↔
        number = line ∧ expected = keyword.arity ∧ found ≠ expected ∧
          ∃ operands, operands.length = found ∧ Written text keyword.spelling operands) ∧
    (∀ word number, Command.ofLine text line = .error (.unknownCommand word number) ↔
      number = line ∧ (∀ keyword : Keyword, word ≠ keyword.spelling) ∧
        ∃ operands, Written text word operands) ∧
    ∀ (command : Command) (spacing : Text.Spacing),
      (∀ operand ∈ command.operands, Text.IsWord operand.toList) →
      spacing.gaps.length = command.operands.length →
      Command.ofLine (command.write spacing) line = .ok (some command) := by
  refine ⟨?_, ?_, ?_, ?_, ?_⟩
  · intro command
    rw [← Command.reading_iff]
    constructor
    · intro reading
      cases reading with
      | command written => exact written
    · exact .command
  · rw [← Command.reading_iff]
    constructor
    · intro reading
      cases reading with
      | nothing blank => exact blank
    · exact .nothing
  · intro keyword expected found number
    rw [← Command.reading_iff]
    constructor
    · intro reading
      cases reading with
      | wrongArity written other => exact ⟨rfl, rfl, other, _, rfl, written⟩
    · rintro ⟨rfl, rfl, other, operands, rfl, written⟩
      exact .wrongArity written other
  · intro word number
    rw [← Command.reading_iff]
    constructor
    · intro reading
      cases reading with
      | unknownCommand written foreign => exact ⟨rfl, foreign, _, written⟩
    · rintro ⟨rfl, foreign, operands, written⟩
      exact .unknownCommand written foreign
  · intro command spacing isWord same
    rw [← Command.reading_iff]
    refine .command ⟨?_, spacing, same, String.toList_ofList⟩
    exact List.forall_mem_cons.mpr ⟨Command.isWord_spelling command.keyword, isWord⟩

/-- A declaration with a tab, two kinds of wide blanks and a comment right behind its last word. -/
theorem lines_follow_grammar_with_wide_blanks :
    let command : Command := .declare "a-b" "int" "ünit"
    let tab : Text.Blanks := .cons '\t' (by decide) .none
    let wide : Text.Gap := ⟨.cons '\u3000' (by decide) .none, List.cons_ne_nil _ _⟩
    let two : Text.Gap := ⟨.cons ' ' (by decide) wide.toBlanks, List.cons_ne_nil _ _⟩
    let spacing : Text.Spacing := ⟨tab, [two, wide, wide], .none, some [' ', '#', 'x']⟩
    (∀ operand ∈ command.operands, Text.IsWord operand.toList) ∧
      spacing.gaps.length = command.operands.length ∧
      command.write spacing = "\tdeclare \u3000a-b\u3000int\u3000ünit# #x" ∧
      Command.ofLine "\tdeclare \u3000a-b\u3000int\u3000ünit# #x" 3 = .ok (some command) := by
  intro command tab wide two spacing
  have isWord : ∀ operand ∈ command.operands, Text.IsWord operand.toList := by
    decide
  have hwrite : command.write spacing = "\tdeclare \u3000a-b\u3000int\u3000ünit# #x" := by
    decide
  obtain ⟨-, -, -, -, hread⟩ := lines_follow_grammar "" 3
  have hcommand := hread command spacing isWord rfl
  rw [hwrite] at hcommand
  exact ⟨isWord, rfl, hwrite, hcommand⟩

end Script

end Scoping
