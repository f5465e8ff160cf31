import Mathlib.Data.Nat.Find
import Scoping.Proofs.Passage
import Scoping.Proofs.Refusals

namespace Scoping

/-- Whether a fault comes only from callers that choose their own handles, lines and names, or go on
until the addresses run out, or from an index that is out of step with its store. -/
def Fault.isForeign : Fault → Bool
  | scopeMismatch .. | closedScope _ | invalidLine _ | addressesExhausted _ | missingSymbol _
  | invalidName _ _ .empty => true
  | duplicate .. | noOpenScope | invalidName _ _ (.tooLong ..) | tagTooLong .. | unresolved .. =>
    false

namespace Script

def keywordOf? (text : String) : Option Keyword :=
  match Command.ofLine text 0 with
  | .ok command => command.map Command.keyword
  | .error _ => none

def keywords (lines : List String) : List (Option Keyword) := lines.map keywordOf?

/-- The line at a position needs an open scope, and all scopes that were opened before are
closed. -/
structure Stranded (keywords : List (Option Keyword)) (position : Nat) : Prop where
  needs : keywords[position]? = some (some .exit) ∨ keywords[position]? = some (some .declare)
  balanced : (keywords.take position).count (some .enter) =
    (keywords.take position).count (some .exit)

instance (keywords : List (Option Keyword)) (position : Nat) :
    Decidable (Stranded keywords position) :=
  decidable_of_iff
    ((keywords[position]? = some (some .exit) ∨ keywords[position]? = some (some .declare)) ∧
      (keywords.take position).count (some .enter) = (keywords.take position).count (some .exit))
    ⟨fun h => ⟨h.1, h.2⟩, fun h => ⟨h.needs, h.balanced⟩⟩

section Keywords

variable {text : String} {line : Nat}

theorem keywordOf?_of_ok {command : Option Command}
    (h : Command.ofLine text line = .ok command) :
    keywordOf? text = command.map Command.keyword := by
  have hmap : Command.ofLine text line = _ := Command.ofLine_map (fun _ => line) text 0
  rw [keywordOf?]
  cases hread : Command.ofLine text 0 with
  | ok read =>
    rw [hmap, hread] at h
    rw [Except.ok.inj h]
  | error fault =>
    rw [hmap, hread] at h
    cases h

theorem keywordOf?_of_error {fault : LineFault} (h : Command.ofLine text line = .error fault) :
    keywordOf? text = none := by
  have hmap : Command.ofLine text line = _ := Command.ofLine_map (fun _ => line) text 0
  rw [keywordOf?]
  cases hread : Command.ofLine text 0 with
  | ok read =>
    rw [hmap, hread] at h
    cases h
  | error other => rfl

end Keywords

section Stranded

variable {before after : List (Option Keyword)} {position : Nat}

theorem Stranded.lt_length (stranded : Stranded before position) : position < before.length := by
  rcases stranded.needs with h | h
  · exact (List.getElem?_eq_some_iff.mp h).1
  · exact (List.getElem?_eq_some_iff.mp h).1

/-- What follows a line does not matter to it. -/
theorem stranded_append_iff (h : position < before.length) :
    Stranded (before ++ after) position ↔ Stranded before position := by
  have hkeyword : (before ++ after)[position]? = before[position]? :=
    List.getElem?_append_left h
  have htake : (before ++ after).take position = before.take position :=
    List.take_append_of_le_length (Nat.le_of_lt h)
  constructor
  · intro stranded
    exact ⟨by simpa only [hkeyword] using stranded.needs,
      by simpa only [htake] using stranded.balanced⟩
  · intro stranded
    exact ⟨by simpa only [hkeyword] using stranded.needs,
      by simpa only [htake] using stranded.balanced⟩

theorem stranded_concat_iff {keyword : Option Keyword} :
    Stranded (before ++ [keyword]) before.length ↔
      (keyword = some .exit ∨ keyword = some .declare) ∧
        before.count (some .enter) = before.count (some .exit) := by
  have hkeyword : (before ++ [keyword])[before.length]? = some keyword :=
    List.getElem?_concat_length
  have htake : (before ++ [keyword]).take before.length = before := List.take_left
  constructor
  · intro stranded
    exact ⟨by simpa only [hkeyword, Option.some.injEq] using stranded.needs,
      by simpa only [htake] using stranded.balanced⟩
  · rintro ⟨hneeds, hbalanced⟩
    exact ⟨by simpa only [hkeyword, Option.some.injEq] using hneeds,
      by simpa only [htake] using hbalanced⟩

end Stranded

namespace Frames

variable {limits : Limits} {frames next : Frames} {line : Nat} {text printed : String}
  {found : List Diagnostic}

/-- Without frames no scope can be closed and nothing declared, and every other command goes on. -/
theorem run_eq_none_iff {command : Command} :
    frames.run limits line command = none ↔
      frames.inner = [] ∧ (command.keyword = .exit ∨ command.keyword = .declare) := by
  cases command with
  | enter => simp [run, Command.keyword]
  | exit => cases hinner : frames.inner <;> simp [run, hinner, Command.keyword]
  | declare name type kind =>
    cases hinner : frames.inner with
    | nil => simp [run, hinner, Command.keyword]
    | cons frame outer =>
      cases hrefusal : frame.refusal? limits line name type kind <;>
        simp [run, hinner, hrefusal]
  | resolve name =>
    cases hfound : resolveFrames name frames.inner <;> simp [run, hfound, Command.keyword]
  | dump => simp [run, Command.keyword]

/-- An `enter` adds a frame, an `exit` takes one away, and other commands leave their number. -/
theorem length_inner_of_run {command : Command}
    (h : frames.run limits line command = some (next, printed, found)) :
    next.inner.length + [some command.keyword].count (some .exit) =
      frames.inner.length + [some command.keyword].count (some .enter) := by
  cases command with
  | enter =>
    simp only [run, Option.some.injEq, Prod.mk.injEq] at h
    rw [← h.1]
    rfl
  | exit =>
    cases hinner : frames.inner with
    | nil => simp [run, hinner] at h
    | cons frame outer =>
      simp only [run, hinner, Option.some.injEq, Prod.mk.injEq] at h
      rw [← h.1]
      rfl
  | declare name type kind =>
    cases hinner : frames.inner with
    | nil => simp [run, hinner] at h
    | cons frame outer =>
      cases hrefusal : frame.refusal? limits line name type kind with
      | some diagnostic =>
        simp only [run, hinner, hrefusal, Option.some.injEq, Prod.mk.injEq] at h
        rw [← h.1, hinner]
        rfl
      | none =>
        simp only [run, hinner, hrefusal, Option.some.injEq, Prod.mk.injEq] at h
        rw [← h.1]
        rfl
  | resolve name =>
    cases hfound : resolveFrames name frames.inner with
    | none =>
      simp only [run, hfound, Option.some.injEq, Prod.mk.injEq] at h
      rw [← h.1]
      rfl
    | some resolution =>
      simp only [run, hfound, Option.some.injEq, Prod.mk.injEq] at h
      rw [← h.1]
      rfl
  | dump =>
    simp only [run, Option.some.injEq, Prod.mk.injEq] at h
    rw [← h.1]
    rfl

theorem read_eq_none_iff :
    frames.read limits line text = none ↔
      frames.inner = [] ∧ (keywordOf? text = some .exit ∨ keywordOf? text = some .declare) := by
  cases hcommand : Command.ofLine text line with
  | error fault => simp [read_of_error hcommand, keywordOf?_of_error hcommand]
  | ok read =>
    cases read with
    | none => simp [read_of_none hcommand, keywordOf?_of_ok hcommand]
    | some command =>
      rw [read_of_command hcommand, keywordOf?_of_ok hcommand, run_eq_none_iff]
      simp only [Option.map_some, Option.some.injEq]

theorem length_inner_of_read (h : frames.read limits line text = some (next, printed, found)) :
    next.inner.length + [keywordOf? text].count (some .exit) =
      frames.inner.length + [keywordOf? text].count (some .enter) := by
  cases hcommand : Command.ofLine text line with
  | error fault =>
    rw [read_of_error hcommand] at h
    cases h
    rw [keywordOf?_of_error hcommand]
    rfl
  | ok read =>
    rw [keywordOf?_of_ok hcommand]
    cases read with
    | none =>
      rw [read_of_none hcommand] at h
      cases h
      rfl
    | some command =>
      rw [read_of_command hcommand] at h
      exact length_inner_of_run h

theorem length_inner_of_readLines {lines : List String}
    (h : frames.readLines limits line lines = some next) :
    next.inner.length + (keywords lines).count (some .exit) =
      frames.inner.length + (keywords lines).count (some .enter) := by
  induction lines generalizing frames line with
  | nil =>
    rw [Option.some.inj h]
    rfl
  | cons text later ih =>
    cases hread : frames.read limits line text with
    | none =>
      rw [readLines_cons_of_none hread] at h
      simp at h
    | some done =>
      obtain ⟨middle, printed, found⟩ := done
      rw [readLines_cons_of_some hread] at h
      have hfirst := length_inner_of_read hread
      have hlater := ih h
      have hkeywords : keywords (text :: later) = [keywordOf? text] ++ keywords later := rfl
      rw [hkeywords, List.count_append, List.count_append]
      omega

theorem readLines_singleton_eq_none_iff :
    frames.readLines limits line [text] = none ↔ frames.read limits line text = none := by
  rw [readLines]
  cases frames.read limits line text <;> simp [readLines]

/-- After lines that the interpreter goes on after, it ends exactly at a stranded one. -/
theorem read_eq_none_iff_stranded {lines : List String} {number : Nat}
    (h : readLines limits {} line lines = some next) :
    next.read limits number text = none ↔
      Stranded (keywords (lines ++ [text])) lines.length := by
  have hopen := length_inner_of_readLines h
  have hkeywords : keywords (lines ++ [text]) = keywords lines ++ [keywordOf? text] :=
    List.map_append
  have hlength : (keywords lines).length = lines.length := List.length_map _
  have hinner : next.inner = [] ↔
      (keywords lines).count (some .enter) = (keywords lines).count (some .exit) := by
    rw [← List.length_eq_zero_iff]
    simp only [List.length_nil, Nat.zero_add] at hopen
    omega
  rw [read_eq_none_iff, hinner, hkeywords, ← hlength, stranded_concat_iff, and_comm]

theorem readLines_eq_none_iff {lines : List String} :
    readLines limits {} line lines = none ↔ ∃ position, Stranded (keywords lines) position := by
  induction lines using List.reverseRecOn with
  | nil =>
    constructor
    · intro h
      simp [readLines] at h
    · rintro ⟨position, stranded⟩
      exact absurd stranded.lt_length (Nat.not_lt_zero position)
  | append_singleton before text ih =>
    have hkeywords : keywords (before ++ [text]) = keywords before ++ [keywordOf? text] :=
      List.map_append
    have hlength : (keywords before).length = before.length := List.length_map _
    rw [readLines_append]
    cases hbefore : readLines limits {} line before with
    | none =>
      obtain ⟨position, stranded⟩ := ih.mp hbefore
      rw [Option.bind_none, hkeywords]
      simp only [true_iff]
      exact ⟨position, (stranded_append_iff stranded.lt_length).mpr stranded⟩
    | some next =>
      -- No line before is stranded, so only the last one can be.
      have hnone : ¬ ∃ position, Stranded (keywords before) position := by
        rw [← ih, hbefore]
        simp
      have hlast : next.read limits (line + before.length) text = none ↔ _ :=
        read_eq_none_iff_stranded hbefore
      rw [Option.bind_some, readLines_singleton_eq_none_iff, hlast]
      constructor
      · intro stranded
        exact ⟨before.length, stranded⟩
      · rintro ⟨position, stranded⟩
        have hlt := stranded.lt_length
        rw [hkeywords, List.length_append, List.length_singleton, hlength] at hlt
        rcases Nat.lt_or_ge position before.length with hearly | hge
        · rw [hkeywords, stranded_append_iff (by omega)] at stranded
          exact absurd ⟨position, stranded⟩ hnone
        · have hposition : position = before.length := by omega
          rwa [hposition] at stranded

end Frames

end Script

namespace Limits

theorem eq_empty_of_nameProblem? {limits : Limits} {name : String}
    (h : limits.nameProblem? name = some .empty) : name = "" := by
  unfold nameProblem? at h
  split at h
  · next hempty => exact String.isEmpty_iff.mp hempty
  · split at h <;> simp at h

end Limits

namespace Script

namespace Command

variable {stack : Stack} {line : Nat}

theorem eq_empty_of_runDeclare {name type kind refused : String} {number : Nat}
    (h : runDeclare stack line name type kind = .error (.invalidName refused number .empty)) :
    name = "" := by
  unfold runDeclare at h
  split at h
  · next hinnermost =>
    have hfault := (Stack.innermost_eq_error_iff.mp hinnermost).2
    rw [Except.error.inj h] at hfault
    simp at hfault
  · split at h
    · next htags =>
      obtain ⟨tag, _, _, hfault⟩ := Limits.exists_tag_of_tagsFault? htags
      rw [Except.error.inj h] at hfault
      simp at hfault
    · cases Stack.refusal_of_declare (eq_error_of_map_eq_error h) with
      | name unfit => exact Limits.eq_empty_of_nameProblem? unfit

theorem empty_mem_operands_of_run {command : Command} {refused : String} {number : Nat}
    (h : command.run stack line = .error (.invalidName refused number .empty)) :
    "" ∈ command.operands := by
  cases command with
  | enter | dump => simp [run] at h
  | exit =>
    have hstructural := isStructural_of_runExit (eq_error_of_map_eq_error h)
    simp [Fault.isStructural] at hstructural
  | declare name type kind =>
    rw [eq_empty_of_runDeclare (eq_error_of_map_eq_error h)]
    exact List.mem_cons_self
  | resolve name =>
    have hfault := eq_unresolved_of_runResolve (eq_error_of_map_eq_error h)
    simp at hfault

/-- No command of a script meets a fault that comes only from callers who choose their own handles,
lines and names or who run out of addresses. -/
theorem isForeign_of_run {command : Command} {fault : Fault} (replayed : stack.Replayed line)
    (room : line ≤ AddressCounter.limit.toNat) (words : ∀ operand ∈ command.operands, operand ≠ "")
    (h : command.run stack line = .error fault) : fault.isForeign = false := by
  cases inStep replayed room command words with
  | goes after printed run =>
    rw [run] at h
    simp at h
  | aborts run =>
    rw [run] at h
    rw [← Except.error.inj h]
    rfl
  | refuses other run semantic =>
    rw [run] at h
    rw [Except.error.inj h] at run semantic
    cases fault with
    | invalidName refused number problem =>
      cases problem with
      | tooLong => rfl
      | empty => exact absurd rfl (words "" (empty_mem_operands_of_run run))
    | scopeMismatch | closedScope | invalidLine | addressesExhausted | missingSymbol =>
      simp [Fault.isStructural] at semantic
    | duplicate | noOpenScope | tagTooLong | unresolved => rfl

end Command

variable {lines : List String} {position : Nat}

theorem keywords_take (lines : List String) (count : Nat) :
    keywords (lines.take count) = (keywords lines).take count :=
  List.map_take

theorem length_keywords (lines : List String) : (keywords lines).length = lines.length :=
  List.length_map _

theorem stranded_take_iff {count : Nat} (h : position < count) :
    Stranded ((keywords lines).take count) position ↔ Stranded (keywords lines) position := by
  rcases Nat.lt_or_ge position (keywords lines).length with hlt | hge
  · have hlength : position < ((keywords lines).take count).length := by
      rw [List.length_take]
      omega
    conv_rhs => rw [← List.take_append_drop count (keywords lines)]
    exact (stranded_append_iff hlength).symm
  · rw [List.take_of_length_le (by omega)]

/-- At the first stranded line a replay is under way, and the line ends it with one last report. -/
theorem aborted_of_first_stranded (options : Options)
    (room : lines.length < AddressCounter.limit.toNat)
    (stranded : Stranded (keywords lines) position)
    (first : ∀ earlier < position, ¬ Stranded (keywords lines) earlier) :
    (replayUpTo options (lines.take (position + 1))).status = .aborted ∧
      (replayUpTo options (lines.take position)).Adds
        (replayUpTo options (lines.take (position + 1))) ""
        [Fault.noOpenScope.report.atLine (position + 1)] := by
  have hlt : position < lines.length := by
    rw [← length_keywords]
    exact stranded.lt_length
  have hlength : (lines.take position).length = position := List.length_take_of_le (by omega)
  have htake : lines.take (position + 1) = lines.take position ++ [lines[position]] :=
    List.take_succ_eq_append_getElem hlt
  cases hread : Frames.readLines options.limits {} 1 (lines.take position) with
  | none =>
    obtain ⟨earlier, hearlier⟩ := Frames.readLines_eq_none_iff.mp hread
    have hbefore : earlier < position := by
      have hbefore := hearlier.lt_length
      rwa [length_keywords, hlength] at hbefore
    rw [keywords_take, stranded_take_iff hbefore] at hearlier
    exact absurd hearlier (first earlier hbefore)
  | some frames =>
    obtain ⟨underway, hframes⟩ := underway_replayUpTo (by omega) hread
    rw [hlength] at underway
    have hnone : frames.read options.limits (position + 1) lines[position] = none := by
      rw [Frames.read_eq_none_iff_stranded hread, ← htake, hlength, keywords_take,
        stranded_take_iff (Nat.lt_succ_self position)]
      exact stranded
    rw [← hframes] at hnone
    rw [htake, replayUpTo_concat underway.running, hlength]
    exact underway.runLine_of_none (by omega) hnone

section Replays

variable (options : Options) {source : String}

theorem findings?_of_not_stranded (short : source.utf8ByteSize < 2 ^ 63)
    (h : ¬ ∃ position, Stranded (keywords (sourceLines source)) position) :
    ∃ found, (replay options source).findings? = some ⟨found, false⟩ := by
  have room := length_sourceLines_lt short
  cases hread : Frames.readLines options.limits {} 1 (sourceLines source) with
  | none => exact absurd (Frames.readLines_eq_none_iff.mp hread) h
  | some frames =>
    obtain ⟨underway, _⟩ := underway_replayUpTo room hread
    exact ⟨_, (underway.toLive.yields_finish options).findings?⟩

/-- With a stranded line a replay writes what it wrote before the first one, and finds one thing
more. -/
theorem replay_of_first_stranded (short : source.utf8ByteSize < 2 ^ 63)
    (stranded : Stranded (keywords (sourceLines source)) position)
    (first : ∀ earlier < position, ¬ Stranded (keywords (sourceLines source)) earlier) :
    let reached := replayUpTo options ((sourceLines source).take position)
    (replay options source).output = reached.output ∧
      (replay options source).findings? = some
        ⟨reached.diagnostics ++ [Fault.noOpenScope.report.atLine (position + 1)], true⟩ := by
  intro reached
  obtain ⟨haborted, hadds⟩ :=
    aborted_of_first_stranded options (length_sourceLines_lt short) stranded first
  rw [replay_of_aborted haborted]
  refine ⟨?_, ?_⟩
  · rw [output_of_adds hadds, String.append_empty]
  · rw [Session.findings?, haborted, hadds.diagnostics]
    rfl

/-- What follows the first stranded line, and the dump at the end, play no part. -/
theorem replay_of_same_start (short : source.utf8ByteSize < 2 ^ 63)
    (stranded : Stranded (keywords (sourceLines source)) position)
    (first : ∀ earlier < position, ¬ Stranded (keywords (sourceLines source)) earlier)
    (dumpAtEnd : Bool) {other : String}
    (same : (sourceLines other).take (position + 1) = (sourceLines source).take (position + 1)) :
    (replay ⟨options.limits, dumpAtEnd⟩ other).output = (replay options source).output ∧
      (replay ⟨options.limits, dumpAtEnd⟩ other).findings? =
        (replay options source).findings? := by
  obtain ⟨haborted, _⟩ :=
    aborted_of_first_stranded options (length_sourceLines_lt short) stranded first
  have hother : (replayUpTo ⟨options.limits, dumpAtEnd⟩
      ((sourceLines other).take (position + 1))).status = .aborted := by
    rw [same]
    exact haborted
  rw [replay_of_aborted haborted, replay_of_aborted hother, same]
  exact ⟨rfl, rfl⟩

theorem isForeign_of_replayUpTo {before : List String} {text : String} {command : Command}
    {fault : Fault} (room : before.length < AddressCounter.limit.toNat)
    (running : (replayUpTo options before).status = .running)
    (read : Command.ofLine text (before.length + 1) = .ok (some command))
    (run : command.run (replayUpTo options before).stack (before.length + 1) = .error fault) :
    fault.isForeign = false := by
  cases hread : Frames.readLines options.limits {} 1 before with
  | none =>
    rw [aborted_replayUpTo room hread] at running
    simp at running
  | some frames =>
    obtain ⟨underway, _⟩ := underway_replayUpTo room hread
    exact Command.isForeign_of_run underway.replayed (by omega)
      (fun operand h => Command.operand_ne_empty read h) run

end Replays

/-- A replay is aborted exactly if some line of the script is stranded, whatever the limits, the
names, the tags and the dump at the end. The first such line ends it: the last diagnostic says so,
nothing more is printed or reported, and what follows in the script plays no part. Of the other
structural faults, and of names without characters, there is no trace in any replay. -/
theorem aborts_at_first_stranded_line (options : Options) (source : String)
    (short : source.utf8ByteSize < 2 ^ 63) :
    let lines := sourceLines source
    (∃ found aborted, (replay options source).findings? = some ⟨found, aborted⟩ ∧
      (aborted = true ↔ ∃ position, Stranded (keywords lines) position)) ∧
    (∀ position, Stranded (keywords lines) position →
      (∀ earlier < position, ¬ Stranded (keywords lines) earlier) →
      let reached := replayUpTo options (lines.take position)
      (replay options source).output = reached.output ∧
      (replay options source).findings? = some
        ⟨reached.diagnostics ++ [{
          line := some (position + 1)
          message := "internal error: there is no open scope"
          severity := .error }], true⟩ ∧
      (∀ diagnostic ∈ reached.diagnostics, diagnostic.severity = .error) ∧
      ∀ (dumpAtEnd : Bool) (other : String),
        (sourceLines other).take (position + 1) = lines.take (position + 1) →
          (replay ⟨options.limits, dumpAtEnd⟩ other).output = (replay options source).output ∧
          (replay ⟨options.limits, dumpAtEnd⟩ other).findings? =
            (replay options source).findings?) ∧
    (∀ before text after command fault, lines = before ++ text :: after →
      (replayUpTo options before).status = .running →
      Command.ofLine text (before.length + 1) = .ok (some command) →
      command.run (replayUpTo options before).stack (before.length + 1) = .error fault →
        fault.isForeign = false) := by
  intro lines
  have room : lines.length < AddressCounter.limit.toNat := length_sourceLines_lt short
  refine ⟨?_, ?_, ?_⟩
  · by_cases h : ∃ position, Stranded (keywords lines) position
    · -- Among the stranded lines there is a first one.
      have first := fun earlier (hlt : earlier < Nat.find h) => Nat.find_min h hlt
      obtain ⟨_, hfindings⟩ := replay_of_first_stranded options short (Nat.find_spec h) first
      exact ⟨_, true, hfindings, by simpa using h⟩
    · obtain ⟨found, hfindings⟩ := findings?_of_not_stranded options short h
      exact ⟨found, false, hfindings, by simpa using h⟩
  · intro position stranded first reached
    obtain ⟨houtput, hfindings⟩ := replay_of_first_stranded options short stranded first
    refine ⟨houtput, hfindings, ?_, ?_⟩
    · intro diagnostic hmem
      have hlength := List.length_take_le' position lines
      have herror := isError_of_mem_replayUpTo (by omega) diagnostic hmem
      exact of_decide_eq_true herror
    · intro dumpAtEnd other same
      exact replay_of_same_start options short stranded first dumpAtEnd same
  · intro before text after command fault hlines running read run
    have hlength : before.length < lines.length := by
      rw [hlines, List.length_append, List.length_cons]
      omega
    exact isForeign_of_replayUpTo options (by omega) running read run

/-- A declaration after the last scope was closed ends the replay in front of the dump. -/
theorem aborts_at_declaration_outside :
    let source := "enter\nresolve x\nexit\ndeclare x int var\nenter\ndump"
    let other := "enter\nresolve x\nexit\ndeclare x int var\nexit"
    let found : List Diagnostic :=
      [(Fault.unresolved "x" 2).report,
        { line := some 4
          message := "internal error: there is no open scope"
          severity := .error }]
    (replay {} source).output = "" ∧ (replay {} source).findings? = some ⟨found, true⟩ ∧
      (replay ⟨{}, true⟩ other).output = "" ∧
      (replay ⟨{}, true⟩ other).findings? = some ⟨found, true⟩ := by
  intro source other found
  obtain ⟨-, habort, -⟩ := aborts_at_first_stranded_line {} source (by decide +kernel)
  have stranded : Stranded (keywords (sourceLines source)) 3 := by decide +kernel
  have first : ∀ earlier < 3, ¬ Stranded (keywords (sourceLines source)) earlier := by
    decide +kernel
  obtain ⟨houtput, hfindings, -, hother⟩ := habort 3 stranded first
  have hreached : (replayUpTo {} ((sourceLines source).take 3)).output = "" ∧
      (replayUpTo {} ((sourceLines source).take 3)).diagnostics =
        [(Fault.unresolved "x" 2).report] := by decide +kernel
  obtain ⟨hsame, hfound⟩ := hother true other (by decide +kernel)
  rw [hreached.1] at houtput
  rw [hreached.2] at hfindings
  exact ⟨houtput, hfindings, hsame.trans houtput, hfound.trans hfindings⟩

end Script

end Scoping
