import Scoping.Proofs.Dumps
import Scoping.Proofs.Origins

namespace Scoping

/-- A way to classify words and to spell the classes. -/
structure Vocabulary (τ : Type) where
  ofWord : String → τ
  spelling : τ → String
  custom? : τ → Option String
  /-- The class of a word that is not known, which keeps the word. -/
  other : String → τ
  /-- The words that have classes of their own, aliases among them. -/
  known : List String

def TypeTag.vocabulary : Vocabulary TypeTag where
  ofWord := ofWord
  spelling := spelling
  custom? := custom?
  other := other
  known := ["int", "char", "float", "double", "bool", "void", "struct", "union", "enum", "pointer",
    "ptr", "func", "function"]

def KindTag.vocabulary : Vocabulary KindTag where
  ofWord := ofWord
  spelling := spelling
  custom? := custom?
  other := other
  known := ["variable", "var", "function", "func", "array", "parameter", "param", "constant",
    "const", "typedef", "label"]

namespace Vocabulary

variable {τ : Type} {vocabulary : Vocabulary τ}

/-- What the tables of a vocabulary have to satisfy. -/
structure Lawful (vocabulary : Vocabulary τ) : Prop where
  ofWord_of_not_mem : ∀ word ∉ vocabulary.known, vocabulary.ofWord word = vocabulary.other word
  custom?_of_mem : ∀ word ∈ vocabulary.known, vocabulary.custom? (vocabulary.ofWord word) = none
  custom?_other : ∀ word, vocabulary.custom? (vocabulary.other word) = some word
  spelling_other : ∀ word, vocabulary.spelling (vocabulary.other word) = word
  eq_other : ∀ tag word, vocabulary.custom? tag = some word → tag = vocabulary.other word
  ofWord_spelling : ∀ tag, vocabulary.custom? tag = none →
    vocabulary.ofWord (vocabulary.spelling tag) = tag

/-- The classes that words have are those that are fixed when they are spelled and read again. -/
structure Canonical (vocabulary : Vocabulary τ) : Prop where
  retracts : ∀ word, vocabulary.ofWord (vocabulary.spelling (vocabulary.ofWord word)) =
    vocabulary.ofWord word
  known_iff : ∀ word, word ∈ vocabulary.known ↔
    vocabulary.custom? (vocabulary.ofWord word) = none
  kept : ∀ word kept, vocabulary.custom? (vocabulary.ofWord word) = some kept →
    kept = word ∧ vocabulary.spelling (vocabulary.ofWord word) = word
  fixed_iff : ∀ tag, vocabulary.ofWord (vocabulary.spelling tag) = tag ↔
    ¬ ∃ word ∈ vocabulary.known, tag = vocabulary.other word
  same_iff : ∀ word word', vocabulary.ofWord word = vocabulary.ofWord word' ↔
    vocabulary.spelling (vocabulary.ofWord word) = vocabulary.spelling (vocabulary.ofWord word')

namespace Lawful

variable (lawful : vocabulary.Lawful)
include lawful

theorem retracts (word : String) :
    vocabulary.ofWord (vocabulary.spelling (vocabulary.ofWord word)) = vocabulary.ofWord word := by
  by_cases known : word ∈ vocabulary.known
  · exact lawful.ofWord_spelling _ (lawful.custom?_of_mem word known)
  · have hother := lawful.ofWord_of_not_mem word known
    rw [hother, lawful.spelling_other, hother]

theorem custom?_ofWord (word : String) :
    vocabulary.custom? (vocabulary.ofWord word) =
      if word ∈ vocabulary.known then none else some word := by
  split
  · next known => exact lawful.custom?_of_mem word known
  · next unknown => rw [lawful.ofWord_of_not_mem word unknown, lawful.custom?_other]

theorem ofWord_spelling_iff (tag : τ) :
    vocabulary.ofWord (vocabulary.spelling tag) = tag ↔
      ¬ ∃ word ∈ vocabulary.known, tag = vocabulary.other word := by
  cases hcustom : vocabulary.custom? tag with
  | none =>
    refine iff_of_true (lawful.ofWord_spelling tag hcustom) ?_
    rintro ⟨word, _, rfl⟩
    rw [lawful.custom?_other] at hcustom
    simp at hcustom
  | some word =>
    obtain rfl := lawful.eq_other tag word hcustom
    rw [lawful.spelling_other]
    constructor
    · rintro hfixed ⟨other, known, hother⟩
      have hcustoms := congrArg vocabulary.custom? hother
      rw [lawful.custom?_other, lawful.custom?_other] at hcustoms
      obtain rfl := Option.some.inj hcustoms
      rw [← hfixed, lawful.custom?_of_mem word known] at hcustom
      simp at hcustom
    · intro unknown
      exact lawful.ofWord_of_not_mem word fun known => unknown ⟨word, known, rfl⟩

theorem canonical : vocabulary.Canonical where
  retracts := lawful.retracts
  known_iff word := by
    rw [lawful.custom?_ofWord]
    split
    · next known => exact iff_of_true known rfl
    · next unknown => exact iff_of_false unknown (Option.some_ne_none word)
  kept word kept h := by
    rw [lawful.custom?_ofWord] at h
    split at h
    · simp at h
    · next unknown =>
      rw [lawful.ofWord_of_not_mem word unknown, lawful.spelling_other]
      exact ⟨(Option.some.inj h).symm, rfl⟩
  fixed_iff := lawful.ofWord_spelling_iff
  same_iff word word' := by
    refine ⟨fun same => by rw [same], fun same => ?_⟩
    rw [← lawful.retracts word, same, lawful.retracts]

end Lawful

end Vocabulary

theorem TypeTag.lawful : vocabulary.Lawful where
  ofWord_of_not_mem word unknown := by
    show ofWord word = other word
    unfold ofWord
    split
    -- Every branch but the last one is that of a known word.
    all_goals simp [vocabulary] at unknown
    rfl
  custom?_of_mem := by decide
  custom?_other _ := rfl
  spelling_other _ := rfl
  eq_other tag word h := by
    cases tag with
    | other kept => exact congrArg other (Option.some.inj h)
    | _ => simp [vocabulary, custom?] at h
  ofWord_spelling tag h := by
    cases tag with
    | other kept => simp [vocabulary, custom?] at h
    | _ => rfl

theorem KindTag.lawful : vocabulary.Lawful where
  ofWord_of_not_mem word unknown := by
    show ofWord word = other word
    unfold ofWord
    split
    -- Every branch but the last one is that of a known word.
    all_goals simp [vocabulary] at unknown
    rfl
  custom?_of_mem := by decide
  custom?_other _ := rfl
  spelling_other _ := rfl
  eq_other tag word h := by
    cases tag with
    | other kept => exact congrArg other (Option.some.inj h)
    | _ => simp [vocabulary, custom?] at h
  ofWord_spelling tag h := by
    cases tag with
    | other kept => simp [vocabulary, custom?] at h
    | _ => rfl

namespace Text

theorem isLine_intercalate {words : List String} (isField : ∀ word ∈ words, IsField word)
    (nonempty : words ≠ []) : IsLine words (" ".intercalate words) := by
  induction words with
  | nil => exact absurd rfl nonempty
  | cons word others ih =>
    rw [List.forall_mem_cons] at isField
    cases others with
    | nil =>
      rw [String.intercalate_singleton]
      exact isField.1.isLine
    | cons next others =>
      rw [String.intercalate_cons_cons]
      exact (ih isField.2 (List.cons_ne_nil _ _)).word isField.1

end Text

namespace Script

def resolutionWords (name : String) (found : SymbolRef) (symbol : Symbol) : List String :=
  [name, "->", "scope", "#" ++ toString found.scope.serial.toNat, "(depth",
    toString found.scope.depth ++ "):", "index", toString symbol.index ++ ",", "address",
    toString symbol.address.toNat ++ ",", symbol.type.spelling, symbol.kind.spelling, "declared",
    "at", "line", toString symbol.line]

theorem resolutionText_eq (name : String) (found : SymbolRef) (symbol : Symbol) :
    resolutionText name found symbol =
      " ".intercalate (resolutionWords name found symbol) ++ "\n" := by
  have hstring : ∀ text : String, toString text = text := fun _ => rfl
  rw [← String.toList_inj]
  simp [resolutionText, resolutionWords, Handle.text, hstring]

theorem isField_resolutionWords {name : String} (isField : Text.IsField name) (found : SymbolRef)
    {symbol : Symbol} (plain : symbol.row.Plain) :
    ∀ word ∈ resolutionWords name found symbol, Text.IsField word := by
  have hnumber (n : Nat) : Text.IsField (toString n) := Text.isField_toString n
  simp only [resolutionWords, List.forall_mem_cons]
  exact ⟨isField, by decide, by decide, .append (by decide) (hnumber _), by decide,
    .append (hnumber _) (by decide), by decide, .append (hnumber _) (by decide), by decide,
    .append (hnumber _) (by decide), plain.type, plain.kind, by decide, by decide, by decide,
    hnumber _, List.forall_mem_nil _⟩

def tagsOfResolution? (text : String) : Option (TypeTag × KindTag) := do
  let words ← (Text.lineWords text).head?
  let type ← words[10]?
  let kind ← words[11]?
  some (.ofWord type, .ofWord kind)

theorem tagsOfResolution?_resolutionText {name : String} (isField : Text.IsField name)
    (found : SymbolRef) {symbol : Symbol} (plain : symbol.row.Plain) :
    tagsOfResolution? (resolutionText name found symbol) =
      some (.ofWord symbol.type.spelling, .ofWord symbol.kind.spelling) := by
  have isLine := Text.isLine_intercalate (isField_resolutionWords isField found plain)
    (List.cons_ne_nil _ _)
  rw [tagsOfResolution?, resolutionText_eq, isLine.prints.lineWords_eq]
  rfl

end Script

def Scope.tags (scope : Scope) : List (TypeTag × KindTag) :=
  scope.symbols.items.map fun symbol => (symbol.type, symbol.kind)

def Table.tags (table : Table) : List (TypeTag × KindTag) :=
  table.rows.map fun row => (.ofWord row.type, .ofWord row.kind)

/-- The tags are those that their spellings are read as. -/
structure Symbol.Classified (symbol : Symbol) : Prop where
  type : TypeTag.ofWord symbol.type.spelling = symbol.type
  kind : KindTag.ofWord symbol.kind.spelling = symbol.kind

theorem Scope.tags_table {scope : Scope}
    (classified : ∀ symbol ∈ scope.symbols.items, symbol.Classified) :
    scope.table.tags = scope.tags := by
  rw [Table.tags, Scope.table, Scope.tags, List.map_map]
  apply List.map_congr_left
  intro symbol hsymbol
  exact Prod.ext (classified symbol hsymbol).type (classified symbol hsymbol).kind

namespace Script

variable {options : Options} {sink : Sink} {lines : List String}

theorem Declares.classified {symbol : Symbol} (declares : Declares options sink lines symbol) :
    symbol.Classified := by
  obtain ⟨_, _, _, declared⟩ := declares
  obtain ⟨symbol, index, address⟩ := symbol
  obtain rfl : symbol = declaration _ _ _ _ := declared
  exact ⟨TypeTag.lawful.retracts _, KindTag.lawful.retracts _⟩

theorem plain_runLines (options : Options) (sink : Sink) (lines : List String) :
    ((Session.start options sink).runLines 1 lines).stack.Plain :=
  Session.plain_runLines (Stack.plain_of_no_scopes rfl) 1 lines

theorem tags_readDump (options : Options) (sink : Sink) (lines : List String) :
    let stack := ((Session.start options sink).runLines 1 lines).stack
    (readDump stack.dump).map Table.tags = stack.scopes.map Scope.tags := by
  intro stack
  rw [Stack.readDump_dump (plain_runLines options sink lines), Stack.tables, List.map_map]
  apply List.map_congr_left
  intro scope hscope
  apply Scope.tags_table
  intro symbol hsymbol
  exact (Session.declares_runLines options sink lines symbol ⟨scope, hscope, hsymbol⟩).classified

theorem exists_symbol_of_runResolve {stack : Stack} (sound : stack.Sound) (aligned : stack.Aligned)
    {line : Nat} {name printed : String}
    (run : Command.runResolve stack line name = .ok printed) :
    ∃ found symbol, stack.resolve name = some found ∧ stack.get? found = some symbol ∧
      stack.Holds symbol ∧ printed = resolutionText name found symbol := by
  cases hresolve : stack.resolve name with
  | none => simp [Command.runResolve, hresolve] at run
  | some found =>
    obtain ⟨symbol, hsymbol, _⟩ := sound.get?_of_resolve aligned hresolve
    simp only [Command.runResolve, hresolve, hsymbol] at run
    obtain ⟨scope, hscope, hget⟩ := Option.bind_eq_some_iff.mp hsymbol
    have holds : stack.Holds symbol :=
      ⟨scope, Stack.mem_of_scope? hscope, Scope.mem_items_of_get? hget⟩
    exact ⟨found, symbol, rfl, hsymbol, holds, (Except.ok.inj run).symm⟩

end Script

/-- For types and for kinds alike, classifying the spelling of the class of a word gives this class
back. The class keeps no word or the very word that was classified, which is then also how it is
spelled. A tag is not what its spelling is read as exactly if it keeps a word that has a class of
its own. Two words have the same class exactly if their classes are spelled alike. So wherever a
replay prints a tag, in a dump or for a name that was found, the word is read as the tag of the
symbol. -/
theorem tags_are_canonical :
    TypeTag.vocabulary.Canonical ∧ KindTag.vocabulary.Canonical ∧
    ∀ (options : Script.Options) (sink : Script.Sink) (lines : List String),
      let stack := ((Script.Session.start options sink).runLines 1 lines).stack
      (readDump stack.dump).map Table.tags = stack.scopes.map Scope.tags ∧
      ∀ (text name printed : String) (line : Nat),
        Script.Command.ofLine text line = .ok (some (.resolve name)) →
        Script.Command.runResolve stack line name = .ok printed →
        ∃ found symbol, stack.resolve name = some found ∧ stack.get? found = some symbol ∧
          Script.tagsOfResolution? printed = some (symbol.type, symbol.kind) := by
  refine ⟨TypeTag.lawful.canonical, KindTag.lawful.canonical, fun options sink lines => ?_⟩
  intro stack
  refine ⟨Script.tags_readDump options sink lines, fun text name printed line read run => ?_⟩
  obtain ⟨_, sound, aligned⟩ := Script.Session.stack_runLines options sink lines
  obtain ⟨found, symbol, hresolve, hget, holds, rfl⟩ :=
    Script.exists_symbol_of_runResolve sound aligned run
  have isField : Text.IsField name :=
    Script.Command.isField_of_mem_operands read name List.mem_cons_self
  have plain := Script.plain_runLines options sink lines symbol holds
  have classified := (Script.Session.declares_runLines options sink lines symbol holds).classified
  refine ⟨found, symbol, hresolve, hget, ?_⟩
  rw [Script.tagsOfResolution?_resolutionText isField found plain, classified.type,
    classified.kind]

/-- Aliases are printed in their canonical spelling, which has the class of the alias. -/
theorem tags_are_canonical_of_aliases :
    let lines := ["enter", "declare p ptr func"]
    let stack := ((Script.Session.start {} {}).runLines 1 lines).stack
    let printed :=
      "p -> scope #0 (depth 0): index 0, address 0, pointer function declared at line 2\n"
    Script.Command.runResolve stack 3 "p" = .ok printed ∧
      Script.tagsOfResolution? printed = some (.pointer, .function) ∧
      (readDump stack.dump).map Table.tags = [[(.pointer, .function)]] ∧
      TypeTag.ofWord (TypeTag.other "ptr").spelling ≠ .other "ptr" := by
  intro lines stack printed
  obtain ⟨htypes, _, hreplay⟩ := tags_are_canonical
  obtain ⟨hdump, hprinted⟩ := hreplay {} {} lines
  have read : Script.Command.ofLine "resolve p" 3 = .ok (some (.resolve "p")) := by rfl
  have run : Script.Command.runResolve stack 3 "p" = .ok printed := by decide +kernel
  have hfound : (stack.resolve "p").bind stack.get? =
      some ⟨⟨"p", .pointer, .function, 2⟩, 0, 0⟩ := by decide +kernel
  obtain ⟨found, symbol, hresolve, hget, htags⟩ := hprinted "resolve p" "p" printed 3 read run
  rw [hresolve, Option.bind_some, hget] at hfound
  rw [Option.some.inj hfound] at htags
  have hscopes : stack.scopes.map Scope.tags = [[(.pointer, .function)]] := by decide +kernel
  refine ⟨run, htags, hdump.trans hscopes, ?_⟩
  exact fun hfixed => (htypes.fixed_iff (.other "ptr")).mp hfixed ⟨"ptr", by decide, rfl⟩

end Scoping
