import Scoping.Proofs.Classification

namespace Scoping

def Fault.isTagTooLong : Fault → Bool
  | tagTooLong .. => true
  | _ => false

/-- The first of two words that is too long for a tag. -/
inductive Limits.Objects (limits : Limits) (type kind : String) : String → Prop
  | type (long : limits.maxTag < type.utf8ByteSize) : Objects limits type kind type
  | kind (fits : type.utf8ByteSize ≤ limits.maxTag) (long : limits.maxTag < kind.utf8ByteSize) :
      Objects limits type kind kind

section Checks

variable {limits : Limits} {stack : Stack} {handle : Handle} {name type kind : String} {line : Nat}
  {fault : Fault}

theorem Limits.tagsFault?_eq_some_iff :
    limits.tagsFault? name line [type, kind] = some fault ↔
      ∃ word, limits.Objects type kind word ∧ fault = .tagTooLong name word line limits.maxTag := by
  have htype : limits.maxTag < type.utf8ByteSize →
      limits.tagsFault? name line [type, kind] =
        some (.tagTooLong name type line limits.maxTag) := fun long =>
    tagsFault?_of_long (List.forall_mem_nil _) long
  have hkind : type.utf8ByteSize ≤ limits.maxTag → limits.maxTag < kind.utf8ByteSize →
      limits.tagsFault? name line [type, kind] =
        some (.tagTooLong name kind line limits.maxTag) := fun fits long =>
    tagsFault?_of_long (List.forall_mem_singleton.mpr fits) long
  constructor
  · intro h
    -- The kind is measured only after a type that is short enough.
    by_cases long : limits.maxTag < type.utf8ByteSize
    · rw [htype long] at h
      exact ⟨type, .type long, (Option.some.inj h).symm⟩
    · have fits := Nat.not_lt.mp long
      obtain ⟨tag, hmem, hlong, _⟩ := exists_tag_of_tagsFault? h
      have hkindLong : limits.maxTag < kind.utf8ByteSize := by
        rw [List.mem_pair] at hmem
        rcases hmem with rfl | rfl
        · exact absurd hlong long
        · exact hlong
      rw [hkind fits hkindLong] at h
      exact ⟨kind, .kind fits hkindLong, (Option.some.inj h).symm⟩
  · rintro ⟨word, objects, rfl⟩
    cases objects with
    | type long => exact htype long
    | kind fits long => exact hkind fits long

theorem Limits.isTagTooLong_of_tagsFault?
    (h : limits.tagsFault? name line [type, kind] = some fault) : fault.isTagTooLong = true := by
  obtain ⟨_, _, rfl⟩ := tagsFault?_eq_some_iff.mp h
  rfl

/-- What was short enough as it was written is not too long when it is declared. -/
theorem Stack.isTagTooLong_of_declare
    (fits : stack.limits.tagsFault? name line [type, kind] = none)
    (h : stack.declare handle (Script.declaration name type kind line) = .error fault) :
    fault.isTagTooLong = false := by
  cases refusal_of_declare h with
  | tag kept long =>
    have hfits := Limits.tagsFault?_eq_none_iff.mp fits _ (Script.mem_of_mem_customTags kept)
    omega
  | closed | line | name | duplicate | exhausted | missing => rfl

theorem Script.customTags_of_unknown (unknownType : type ∉ TypeTag.vocabulary.known)
    (unknownKind : kind ∉ KindTag.vocabulary.known) :
    (declaration name type kind line).customTags = [type, kind] := by
  have htype : (TypeTag.ofWord type).custom? = some type :=
    (TypeTag.lawful.custom?_ofWord type).trans (if_neg unknownType)
  have hkind : (KindTag.ofWord kind).custom? = some kind :=
    (KindTag.lawful.custom?_ofWord kind).trans (if_neg unknownKind)
  rw [Declaration.customTags_eq, declaration, htype, hkind]
  rfl

theorem Stack.declare_of_unknown (unknownType : type ∉ TypeTag.vocabulary.known)
    (unknownKind : kind ∉ KindTag.vocabulary.known) (isOpen : stack.isOpen handle = true)
    (line_pos : 1 ≤ line) (fit : stack.limits.nameProblem? name = none)
    (h : stack.limits.tagsFault? name line [type, kind] = some fault) :
    stack.declare handle (Script.declaration name type kind line) = .error fault := by
  obtain ⟨scope, found⟩ := Option.isSome_iff_exists.mp isOpen
  have line_ne : (Script.declaration name type kind line).line ≠ 0 := Nat.ne_of_gt line_pos
  apply declare_of_declarationFault? found
  apply Limits.declarationFault?_of_tagsFault? line_ne fit
  rw [Script.customTags_of_unknown unknownType unknownKind]
  exact h

end Checks

section Reports

def Diagnostic.helpStart (diagnostic : Diagnostic) : List Char :=
  (diagnostic.help.getD "").toList.take 2

variable {fault : Fault}

/-- Only the help about a tag that is too long starts like this. -/
theorem Fault.helpStart_report_of_isTagTooLong (h : fault.isTagTooLong = true) :
    fault.report.helpStart = "ta".toList := by
  have hstring : ∀ text : String, toString text = text := fun _ => rfl
  cases fault with
  | tagTooLong name tag line max =>
    show (s!"tags are at most {max} bytes long".toList).take 2 = _
    simp [hstring]
  | _ => simp [isTagTooLong] at h

theorem Fault.helpStart_report_of_not_isTagTooLong (h : fault.isTagTooLong = false) :
    fault.report.helpStart ≠ "ta".toList := by
  have hstring : ∀ text : String, toString text = text := fun _ => rfl
  cases fault with
  | tagTooLong => simp [isTagTooLong] at h
  | invalidName name line problem =>
    cases problem with
    | empty => exact (by decide : "identifiers cannot be empty".toList.take 2 ≠ "ta".toList)
    | tooLong length max =>
      show (s!"the identifier is {length} bytes long, at most {max} are allowed".toList).take 2 ≠ _
      simp [hstring]
  | duplicate =>
    exact (by decide :
      "declarations in an inner scope may shadow this one".toList.take 2 ≠ "ta".toList)
  | unresolved | scopeMismatch | noOpenScope | closedScope | invalidLine | addressesExhausted
  | missingSymbol =>
    exact (by decide : "".toList.take 2 ≠ "ta".toList)

theorem Fault.isTagTooLong_of_report_eq {other : Fault} (same : fault.report = other.report)
    (h : fault.isTagTooLong = true) : other.isTagTooLong = true := by
  by_contra hother
  apply helpStart_report_of_not_isTagTooLong (Bool.eq_false_iff.mpr hother)
  rw [← same]
  exact helpStart_report_of_isTagTooLong h

theorem Fault.isTagTooLong_of_structural (h : fault.isStructural = true) :
    fault.isTagTooLong = false := by
  cases fault with
  | duplicate | invalidName | tagTooLong | unresolved => simp [isStructural] at h
  | scopeMismatch | noOpenScope | closedScope | invalidLine | addressesExhausted
  | missingSymbol => rfl

theorem Script.LineFault.helpStart_report (fault : LineFault) :
    fault.report.helpStart ≠ "ta".toList := by
  cases fault with
  | unknownCommand word line =>
    exact (by decide :
      "expected one of `enter`, `exit`, `declare`, `resolve`, `dump`".toList.take 2 ≠ "ta".toList)
  | wrongArity keyword expected found line => exact (by decide : "".toList.take 2 ≠ "ta".toList)

end Reports

namespace Script

section Lines

variable {stack : Stack} {line : Nat} {fault : Fault}

/-- A declaration that is refused for a tag is refused for one that is too long as it is written. -/
theorem Command.tagsFault?_of_runDeclare {name type kind : String}
    (h : runDeclare stack line name type kind = .error fault) (long : fault.isTagTooLong = true) :
    stack.limits.tagsFault? name line [type, kind] = some fault := by
  unfold runDeclare at h
  split at h
  · next hinnermost =>
    rw [← Except.error.inj h, Fault.isTagTooLong_of_structural
      (Stack.isStructural_of_innermost hinnermost)] at long
    simp at long
  · split at h
    · next htags =>
      rw [← Except.error.inj h]
      exact htags
    · next fits =>
      -- What has passed this check passes that of the declaration itself.
      rw [Stack.isTagTooLong_of_declare fits (eq_error_of_map_eq_error h)] at long
      simp at long

theorem Command.exists_declare_of_run {command : Command}
    (h : command.run stack line = .error fault) (long : fault.isTagTooLong = true) :
    ∃ name type kind, command = .declare name type kind ∧
      runDeclare stack line name type kind = .error fault := by
  cases command with
  | enter | dump => simp [run] at h
  | exit =>
    have hexit := isStructural_of_runExit (eq_error_of_map_eq_error h)
    rw [Fault.isTagTooLong_of_structural hexit] at long
    simp at long
  | declare name type kind => exact ⟨name, type, kind, rfl, eq_error_of_map_eq_error h⟩
  | resolve name =>
    rw [eq_unresolved_of_runResolve (eq_error_of_map_eq_error h)] at long
    simp [Fault.isTagTooLong] at long

/-- A line that reports a tag as too long is a declaration that is refused for it. -/
theorem exists_declare_of_mem_lineEffect {text : String} (long : fault.isTagTooLong = true)
    (reported : fault.report ∈ (lineEffect stack line text).diagnostics) :
    ∃ name type kind refused, Command.ofLine text line = .ok (some (.declare name type kind)) ∧
      Command.runDeclare stack line name type kind = .error refused ∧
      refused.isTagTooLong = true ∧ fault.report = refused.report := by
  have hstart := Fault.helpStart_report_of_isTagTooLong long
  cases hread : Command.ofLine text line with
  | error malformed =>
    rw [lineEffect_of_error stack hread, List.mem_singleton] at reported
    exact absurd (reported ▸ hstart) malformed.helpStart_report
  | ok read =>
    cases read with
    | none => simp [lineEffect_of_none stack hread] at reported
    | some command =>
      rw [lineEffect_of_command stack hread] at reported
      cases hrun : command.run stack line with
      | ok done => simp [Command.effect_of_ok hrun] at reported
      | error refused =>
        cases hstructural : refused.isStructural with
        | true =>
          -- The line that a structural fault is given changes nothing about its help.
          rw [Command.effect_of_structural hrun hstructural, List.mem_singleton] at reported
          have hother := Fault.helpStart_report_of_not_isTagTooLong
            (Fault.isTagTooLong_of_structural hstructural)
          rw [reported] at hstart
          exact absurd hstart hother
        | false =>
          rw [Command.effect_of_semantic hrun hstructural, List.mem_singleton] at reported
          have hlong := Fault.isTagTooLong_of_report_eq reported long
          obtain ⟨name, type, kind, rfl, hdeclare⟩ := Command.exists_declare_of_run hrun hlong
          exact ⟨name, type, kind, refused, rfl, hdeclare, hlong, reported⟩

end Lines

/-- A line that the replay runs declares a name with a word that is too long. The diagnostic is
about this word, and the line leaves the stack as it is. -/
inductive TagRefusal (options : Options) (sink : Sink) (lines : List String)
    (diagnostic : Diagnostic) : Prop
  | line {number : Nat} {text : String} {stack : Stack}
      (runs : Runs options sink lines number text stack) {name type kind word : String}
      (read : Command.ofLine text number = .ok (some (.declare name type kind)))
      (objects : options.limits.Objects type kind word)
      (reported : diagnostic = (Fault.tagTooLong name word number options.limits.maxTag).report)
      (unchanged : (lineEffect stack number text).stack = stack)

/-- A line that the replay runs declares the symbol with words that are short enough, and the tags
of the symbol are those of the words. -/
inductive TagAdmission (options : Options) (sink : Sink) (lines : List String)
    (symbol : Symbol) : Prop
  | line {text : String} {stack : Stack} (runs : Runs options sink lines symbol.line text stack)
      {type kind : String}
      (read : Command.ofLine text symbol.line = .ok (some (.declare symbol.name type kind)))
      (typed : symbol.type = .ofWord type) (kinded : symbol.kind = .ofWord kind)
      (fits : type.utf8ByteSize ≤ options.limits.maxTag ∧ kind.utf8ByteSize ≤ options.limits.maxTag)

variable {options : Options} {sink : Sink} {lines : List String}

theorem Runs.limits {number : Nat} {text : String} {stack : Stack}
    (runs : Runs options sink lines number text stack) : stack.limits = options.limits := by
  obtain ⟨before, _, _, _, _, rfl⟩ := runs
  exact (Session.stack_runLines options sink before).1

theorem Reports.tagRefusal {fault : Fault} (long : fault.isTagTooLong = true)
    (reports : Reports options sink lines fault.report) :
    TagRefusal options sink lines fault.report := by
  obtain ⟨runs, reported⟩ := reports
  obtain ⟨name, type, kind, refused, read, run, hlong, same⟩ :=
    exists_declare_of_mem_lineEffect long reported
  have htags := Command.tagsFault?_of_runDeclare run hlong
  rw [runs.limits] at htags
  obtain ⟨word, objects, rfl⟩ := Limits.tagsFault?_eq_some_iff.mp htags
  exact ⟨runs, read, objects, same, (Observes.refused read run).stack_lineEffect⟩

theorem Declares.tagAdmission {symbol : Symbol} (declares : Declares options sink lines symbol) :
    TagAdmission options sink lines symbol := by
  obtain ⟨runs, read, run, declared⟩ := declares
  obtain ⟨_, _, _, fits, _⟩ := Command.runDeclare_eq_ok_iff.mp run
  rw [runs.limits, Limits.tagsFault?_eq_none_iff] at fits
  obtain ⟨symbol, index, address⟩ := symbol
  obtain rfl : symbol = declaration _ _ _ _ := declared
  exact ⟨runs, read, rfl, rfl, fits _ (by simp), fits _ (by simp)⟩

end Script

/-- A declaration of which both words are short enough as they are written is not refused for a tag,
whatever they are aliases of. A declaration of two words that are not known, to which nothing else
is objected first, is refused for a tag exactly if the check of the words as they are written fails,
and with the same fault. So each tag that a replay reports as too long is a word of a line that
declares it, and the line declares nothing; and a symbol gets its tags from words that are short
enough. -/
theorem written_tags_decide :
    (∀ (stack : Stack) (handle : Handle) (name type kind : String) (line : Nat) (fault : Fault),
      stack.limits.tagFault? name line type = none →
      stack.limits.tagFault? name line kind = none →
      stack.declare handle (Script.declaration name type kind line) = .error fault →
      fault.isTagTooLong = false) ∧
    (∀ (stack : Stack) (handle : Handle) (name type kind : String) (line : Nat) (fault : Fault),
      type ∉ TypeTag.vocabulary.known → kind ∉ KindTag.vocabulary.known →
      stack.isOpen handle = true → 1 ≤ line → stack.limits.nameProblem? name = none →
      (stack.limits.tagsFault? name line [type, kind] = some fault ↔
        stack.declare handle (Script.declaration name type kind line) = .error fault ∧
          fault.isTagTooLong = true)) ∧
    ∀ (options : Script.Options) (source : String) (sink : Script.Sink),
      let lines := Script.sourceLines source
      (∀ fault : Fault, fault.isTagTooLong = true →
        fault.report ∈ (Script.replay options source sink).diagnostics →
        Script.TagRefusal options sink lines fault.report) ∧
      ∀ (count : Nat) (symbol : Symbol),
        ((Script.Session.start options sink).runLines 1 (lines.take count)).stack.Holds symbol →
        Script.TagAdmission options sink lines symbol := by
  refine ⟨fun stack handle name type kind line fault htype hkind h => ?_,
    fun stack handle name type kind line fault unknownType unknownKind isOpen line_pos fit => ?_,
    fun options source sink => ⟨fun fault long h => ?_, fun count symbol holds => ?_⟩⟩
  · apply Stack.isTagTooLong_of_declare _ h
    have htypeFits := Limits.tagFault?_eq_none_iff.mp htype
    have hkindFits := Limits.tagFault?_eq_none_iff.mp hkind
    simp [Limits.tagsFault?_eq_none_iff, htypeFits, hkindFits]
  · constructor
    · intro htags
      exact ⟨Stack.declare_of_unknown unknownType unknownKind isOpen line_pos fit htags,
        Limits.isTagTooLong_of_tagsFault? htags⟩
    · rintro ⟨hdeclare, long⟩
      cases htags : stack.limits.tagsFault? name line [type, kind] with
      | none =>
        rw [Stack.isTagTooLong_of_declare htags hdeclare] at long
        simp at long
      | some other =>
        have hother :=
          Stack.declare_of_unknown unknownType unknownKind isOpen line_pos fit htags
        exact congrArg some (Except.error.inj (hother.symm.trans hdeclare))
  · rcases Script.Session.mem_diagnostics_finish h with reported | harmless
    · exact (Script.Session.reports_runLines options sink _ _ reported).tagRefusal long
    · rw [fault.isError_report] at harmless
      simp at harmless
  · -- A line that is run among the first lines is run among all of them.
    have declares := Script.Session.declares_runLines options sink _ symbol holds
    have hall := declares.append ((Script.sourceLines source).drop count)
    rw [List.take_append_drop] at hall
    exact hall.tagAdmission

/-- The word `func` is short enough for a kind that is spelled `function`. The word `function` is
too long for a type that is spelled `func`. -/
theorem written_tags_decide_for_aliases :
    let options : Script.Options := { limits := { maxTag := 4 } }
    let source := "enter\ndeclare f func func\ndeclare g function var"
    let lines := Script.sourceLines source
    let stack := Call.performAll { limits := options.limits }
      [.enter, .declare ⟨0, 0⟩ (Script.declaration "f" "func" "func" 2)]
    let duplicate := Fault.duplicate "f" ⟨0, 0⟩ 2 4 ⟨⟨0, 0⟩, ⟨0⟩⟩
    let refused := Fault.tagTooLong "g" "words" 4 4
    stack.declare ⟨0, 0⟩ (Script.declaration "f" "func" "func" 4) = .error duplicate ∧
      duplicate.isTagTooLong = false ∧
      stack.declare ⟨0, 0⟩ (Script.declaration "g" "words" "role" 4) = .error refused ∧
      Script.TagRefusal options {} lines (Fault.tagTooLong "g" "function" 3 4).report ∧
      Script.TagAdmission options {} lines ⟨⟨"f", .function, .function, 2⟩, 0, 0⟩ := by
  intro options source lines stack duplicate refused
  obtain ⟨accepts, agrees, replays⟩ := written_tags_decide
  obtain ⟨refuses, admits⟩ := replays options source {}
  have again : stack.declare ⟨0, 0⟩ (Script.declaration "f" "func" "func" 4) =
      .error duplicate := by decide +kernel
  refine ⟨again, ?_, ?_, refuses _ rfl (by decide +kernel), ?_⟩
  · exact accepts stack ⟨0, 0⟩ "f" "func" "func" 4 _ (by decide +kernel) (by decide +kernel) again
  · exact ((agrees stack ⟨0, 0⟩ "g" "words" "role" 4 refused (by decide) (by decide)
      (by decide +kernel) (by decide) (by decide +kernel)).mp (by decide +kernel)).1
  · apply admits 3
    unfold Stack.Holds
    decide +kernel

end Scoping
