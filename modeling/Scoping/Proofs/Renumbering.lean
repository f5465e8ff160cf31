import Scoping.Proofs.Observation

namespace Scoping

section Definitions

variable (f : Nat → Nat)

def Declaration.renumber (declaration : Declaration) : Declaration :=
  { declaration with line := f declaration.line }

def Symbol.renumber (symbol : Symbol) : Symbol := { symbol with line := f symbol.line }

def Scope.renumber (scope : Scope) : Scope :=
  { scope with symbols := .ofList (scope.symbols.items.map (Symbol.renumber f)) }

def Stack.renumber (stack : Stack) : Stack :=
  { stack with scopes := stack.scopes.map (Scope.renumber f) }

def Fault.renumber : Fault → Fault
  | duplicate name scope firstDeclaredAt redeclaredAt existing =>
    duplicate name scope (f firstDeclaredAt) (f redeclaredAt) existing
  | invalidName name line problem => invalidName name (f line) problem
  | tagTooLong name tag line max => tagTooLong name tag (f line) max
  | unresolved name line => unresolved name (f line)
  | fault => fault

def Diagnostic.renumber (diagnostic : Diagnostic) : Diagnostic :=
  { diagnostic with
    line := diagnostic.line.map f
    notes := diagnostic.notes.map fun note => { note with line := f note.line } }

/-- The result of an operation with other lines in what it answers or is refused for. -/
def renumberResult {α : Type} (value : α → α) (result : Except Fault α) : Except Fault α :=
  (result.map value).mapError (Fault.renumber f)

end Definitions

variable {f : Nat → Nat}

theorem Fault.report_renumber (fault : Fault) :
    (fault.renumber f).report = fault.report.renumber f := by
  cases fault <;> rfl

theorem Fault.isStructural_renumber (fault : Fault) :
    (fault.renumber f).isStructural = fault.isStructural := by
  cases fault <;> rfl

theorem Script.LineFault.report_renumber (fault : LineFault) :
    (fault.renumber f).report = fault.report.renumber f := by
  cases fault <;> rfl

namespace Limits

variable (limits : Limits)

theorem tagFault?_renumber (name : String) (line : Nat) (tag : String) :
    limits.tagFault? name (f line) tag =
      (limits.tagFault? name line tag).map (Fault.renumber f) := by
  unfold tagFault?
  split <;> rfl

theorem tagsFault?_renumber (name : String) (line : Nat) (tags : List String) :
    limits.tagsFault? name (f line) tags =
      (limits.tagsFault? name line tags).map (Fault.renumber f) := by
  rw [tagsFault?, tagsFault?, List.map_findSome?]
  congr 1
  funext tag
  exact limits.tagFault?_renumber name line tag

/-- Only line 0 is refused for its number. -/
theorem declarationFault?_renumber (zero : ∀ line, f line = 0 ↔ line = 0)
    (declaration : Declaration) :
    limits.declarationFault? (declaration.renumber f) =
      (limits.declarationFault? declaration).map (Fault.renumber f) := by
  unfold declarationFault?
  simp only [Declaration.renumber, zero]
  split
  · rfl
  · split
    · rfl
    · exact limits.tagsFault?_renumber declaration.name declaration.line _

end Limits

namespace Scope

variable (scope : Scope)

theorem get?_renumber (id : Store.Id Symbol) :
    (scope.renumber f).get? id = (scope.get? id).map (Symbol.renumber f) :=
  List.getElem?_map

theorem size_renumber : (scope.renumber f).size = scope.size := List.length_map _

theorem duplicateFault?_renumber (declaration : Declaration) :
    (scope.renumber f).duplicateFault? (declaration.renumber f) =
      (scope.duplicateFault? declaration).map (Fault.renumber f) := by
  have hlookup : (scope.renumber f).lookup? (declaration.renumber f).name =
      scope.lookup? declaration.name := rfl
  cases hid : scope.lookup? declaration.name with
  | none =>
    rw [duplicateFault?_eq_none_of_lookup? hid,
      duplicateFault?_eq_none_of_lookup? (hlookup.trans hid)]
    rfl
  | some id =>
    have hget := scope.get?_renumber (f := f) id
    cases hfirst : scope.get? id with
    | none =>
      rw [hfirst] at hget
      rw [duplicateFault?_of_get?_eq_none hid hfirst,
        duplicateFault?_of_get?_eq_none (hlookup.trans hid) hget, size_renumber]
      rfl
    | some first =>
      rw [hfirst] at hget
      rw [duplicateFault?_of_lookup? hid hfirst,
        duplicateFault?_of_lookup? (hlookup.trans hid) hget]
      rfl

theorem takeAddress_renumber :
    (scope.renumber f).takeAddress =
      renumberResult f (Prod.map id (Scope.renumber f)) scope.takeAddress := by
  have haddresses : (scope.renumber f).addresses = scope.addresses := rfl
  rw [takeAddress, takeAddress, tryTakeAddress, tryTakeAddress, haddresses]
  obtain ⟨answer, addresses⟩ := scope.addresses.take
  cases answer <;> rfl

theorem add_renumber (declaration : Declaration) (address : Address) :
    (scope.renumber f).add (declaration.renumber f) address =
      Prod.map id (Scope.renumber f) (scope.add declaration address) := by
  simp [add, renumber, Store.insert, Store.freshId, Store.size, Store.ofList, size, ref,
    Symbol.renumber, Declaration.renumber]

theorem declare_renumber (declaration : Declaration) :
    (scope.renumber f).declare (declaration.renumber f) =
      renumberResult f (Prod.map id (Scope.renumber f)) (scope.declare declaration) := by
  rw [declare_eq, declare_eq, duplicateFault?_renumber, takeAddress_renumber]
  cases scope.duplicateFault? declaration with
  | some fault => rfl
  | none =>
    cases scope.takeAddress with
    | error fault => rfl
    | ok taken => exact congrArg Except.ok (taken.2.add_renumber declaration taken.1)

end Scope

namespace Stack

variable (stack : Stack)

theorem depth_renumber : (stack.renumber f).depth = stack.depth := List.length_map _

theorem scope?_renumber (handle : Handle) :
    (stack.renumber f).scope? handle = (stack.scope? handle).map (Scope.renumber f) := by
  have hposition : (stack.renumber f).scopes[handle.depth]? =
      stack.scopes[handle.depth]?.map (Scope.renumber f) := List.getElem?_map
  rw [scope?, scope?, hposition, Option.filter_map]
  rfl

theorem put_renumber (handle : Handle) (scope : Scope) :
    (stack.renumber f).put handle (scope.renumber f) = (stack.put handle scope).renumber f := by
  simp only [put, renumber, List.map_set]

theorem innermost_renumber : (stack.renumber f).innermost = stack.innermost := by
  have hlast : (stack.renumber f).scopes.getLast? =
      stack.scopes.getLast?.map (Scope.renumber f) := List.getLast?_map
  unfold innermost
  rw [hlast]
  cases stack.scopes.getLast? <;> rfl

theorem enter_renumber : (stack.renumber f).enter.2 = stack.enter.2.renumber f := by
  simp only [enter, depth_renumber]
  simp [renumber, Scope.renumber, Store.empty, Store.ofList]

theorem exit_renumber (handle : Handle) :
    (stack.renumber f).exit handle = renumberResult f (Stack.renumber f) (stack.exit handle) := by
  rw [exit_eq, exit_eq, innermost_renumber]
  cases hinnermost : stack.innermost with
  | error fault =>
    rw [(innermost_eq_error_iff.mp hinnermost).2]
    rfl
  | ok innermost =>
    dsimp only
    split
    · have hscopes : (stack.renumber f).scopes.dropLast =
          stack.scopes.dropLast.map (Scope.renumber f) := List.map_dropLast.symm
      rw [hscopes]
      rfl
    · rfl

theorem declare_renumber (zero : ∀ line, f line = 0 ↔ line = 0) (handle : Handle)
    (declaration : Declaration) :
    (stack.renumber f).declare handle (declaration.renumber f) =
      renumberResult f (Prod.map id (Stack.renumber f)) (stack.declare handle declaration) := by
  have hlimits : (stack.renumber f).limits = stack.limits := rfl
  rw [declare_eq, declare_eq, scope?_renumber, hlimits, Limits.declarationFault?_renumber _ zero]
  cases stack.scope? handle with
  | none => rfl
  | some scope =>
    simp only [Option.map_some]
    cases stack.limits.declarationFault? declaration with
    | some fault => rfl
    | none =>
      simp only [Option.map_none, Scope.declare_renumber]
      cases scope.declare declaration with
      | error fault => rfl
      | ok declared =>
        have hput := stack.put_renumber (f := f) handle declared.2
        show Except.ok (declared.1, (stack.renumber f).put handle (declared.2.renumber f)) =
          Except.ok (declared.1, (stack.put handle declared.2).renumber f)
        rw [hput]

theorem resolve_renumber (name : String) :
    (stack.renumber f).resolve name = stack.resolve name := by
  have hscopes : (stack.renumber f).scopes.reverse =
      stack.scopes.reverse.map (Scope.renumber f) := List.map_reverse.symm
  rw [resolve, resolve, hscopes, List.findSome?_map]
  rfl

end Stack

namespace Script

namespace Command

variable (stack : Stack) (line : Nat)

theorem runExit_renumber :
    runExit (stack.renumber f) = renumberResult f (Stack.renumber f) (runExit stack) := by
  unfold runExit
  rw [Stack.innermost_renumber]
  cases hinnermost : stack.innermost with
  | error fault =>
    rw [(Stack.innermost_eq_error_iff.mp hinnermost).2]
    rfl
  | ok handle => exact stack.exit_renumber handle

theorem runDeclare_renumber (zero : ∀ line, f line = 0 ↔ line = 0) (name type kind : String) :
    runDeclare (stack.renumber f) (f line) name type kind =
      renumberResult f (Stack.renumber f) (runDeclare stack line name type kind) := by
  have hlimits : (stack.renumber f).limits = stack.limits := rfl
  unfold runDeclare
  rw [Stack.innermost_renumber, hlimits, Limits.tagsFault?_renumber]
  cases hinnermost : stack.innermost with
  | error fault =>
    rw [(Stack.innermost_eq_error_iff.mp hinnermost).2]
    rfl
  | ok handle =>
    cases stack.limits.tagsFault? name line [type, kind] with
    | some fault => rfl
    | none =>
      have hdeclare := stack.declare_renumber zero handle (declaration name type kind line)
      have hdeclaration : (declaration name type kind line).renumber f =
          declaration name type kind (f line) := rfl
      rw [hdeclaration] at hdeclare
      simp only [Option.map_none, hdeclare]
      cases stack.declare handle (declaration name type kind line) <;> rfl

theorem runResolve_renumber (name : String) :
    (runResolve (stack.renumber f) (f line) name).map (fun _ => stack.renumber f) =
      renumberResult f (Stack.renumber f)
        ((runResolve stack line name).map fun _ => stack) := by
  unfold runResolve
  rw [Stack.resolve_renumber]
  cases stack.resolve name with
  | none => rfl
  | some found =>
    dsimp only
    cases (stack.renumber f).get? found <;> cases stack.get? found <;> rfl

/-- But for the text that it prints, a command does the same under other numbers. -/
theorem run_renumber (zero : ∀ line, f line = 0 ↔ line = 0) (command : Command) :
    (command.run (stack.renumber f) (f line)).map Prod.fst =
      renumberResult f (Stack.renumber f) ((command.run stack line).map Prod.fst) := by
  cases command with
  | enter => exact congrArg Except.ok stack.enter_renumber
  | exit =>
    simp only [run, runExit_renumber]
    cases runExit stack <;> rfl
  | declare name type kind =>
    simp only [run, runDeclare_renumber stack line zero]
    cases runDeclare stack line name type kind <;> rfl
  | resolve name =>
    have hresolve := runResolve_renumber (f := f) stack line name
    simp only [run]
    cases hold : runResolve stack line name <;>
      cases hnew : runResolve (stack.renumber f) (f line) name <;>
      rw [hold, hnew] at hresolve <;> exact hresolve
  | dump => rfl

end Command

structure LineEffect.Renumbers (f : Nat → Nat) (effect renumbered : LineEffect) : Prop where
  stack : renumbered.stack = effect.stack.renumber f
  diagnostics : renumbered.diagnostics = effect.diagnostics.map (Diagnostic.renumber f)
  aborts : renumbered.aborts = effect.aborts

theorem Command.effect_renumber (zero : ∀ line, f line = 0 ↔ line = 0) (stack : Stack) (line : Nat)
    (command : Command) :
    (command.effect stack line).Renumbers f (command.effect (stack.renumber f) (f line)) := by
  have hresult := run_renumber stack line zero command
  cases hold : command.run stack line with
  | ok done =>
    cases hnew : command.run (stack.renumber f) (f line) with
    | error fault =>
      rw [hold, hnew] at hresult
      cases hresult
    | ok shown =>
      rw [hold, hnew] at hresult
      rw [effect_of_ok hold, effect_of_ok hnew]
      exact ⟨Except.ok.inj hresult, rfl, rfl⟩
  | error fault =>
    cases hnew : command.run (stack.renumber f) (f line) with
    | ok shown =>
      rw [hold, hnew] at hresult
      cases hresult
    | error other =>
      rw [hold, hnew] at hresult
      have hother : other = fault.renumber f := Except.error.inj hresult
      have hstructural := fault.isStructural_renumber (f := f)
      rw [← hother] at hstructural
      cases hfault : fault.isStructural with
      | true =>
        rw [hfault] at hstructural
        rw [effect_of_structural hold hfault, effect_of_structural hnew hstructural, hother,
          Fault.report_renumber]
        exact ⟨rfl, rfl, rfl⟩
      | false =>
        rw [hfault] at hstructural
        rw [effect_of_semantic hold hfault, effect_of_semantic hnew hstructural, hother,
          Fault.report_renumber]
        exact ⟨rfl, rfl, rfl⟩

theorem lineEffect_renumber (zero : ∀ line, f line = 0 ↔ line = 0) (stack : Stack) (line : Nat)
    (text : String) :
    (lineEffect stack line text).Renumbers f (lineEffect (stack.renumber f) (f line) text) := by
  have hread := Command.ofLine_map f text line
  cases hcommand : Command.ofLine text line with
  | error fault =>
    rw [hcommand] at hread
    rw [lineEffect_of_error _ hcommand, lineEffect_of_error _ hread, LineFault.report_renumber]
    exact ⟨rfl, rfl, rfl⟩
  | ok read =>
    rw [hcommand] at hread
    cases read with
    | none =>
      rw [lineEffect_of_none _ hcommand, lineEffect_of_none _ hread]
      exact ⟨rfl, rfl, rfl⟩
    | some command =>
      rw [lineEffect_of_command _ hcommand, lineEffect_of_command _ hread]
      exact command.effect_renumber zero stack line

structure Transcript.Renumbers (f : Nat → Nat) (transcript renumbered : Transcript) : Prop where
  diagnostics : renumbered.diagnostics = transcript.diagnostics.map (Diagnostic.renumber f)
  aborted : renumbered.aborted = transcript.aborted

section Transcripts

variable {options : Options} {line number : Nat}

theorem closingTranscript_renumber (options : Options) (stack : Stack) :
    (closingTranscript options stack).Renumbers f
      (closingTranscript options (stack.renumber f)) := by
  refine ⟨?_, rfl⟩
  simp only [closingTranscript, Stack.depth_renumber]
  split <;> rfl

/-- Lines that are numbered anew one by one find the same, if what follows them does. -/
theorem transcribe_renumber_append (zero : ∀ line, f line = 0 ↔ line = 0)
    {lines after renumbered : List String}
    (numbers : ∀ position < lines.length, f (line + position) = number + position)
    (later : ∀ stack : Stack, (transcribe options stack (line + lines.length) after).Renumbers f
      (transcribe options (stack.renumber f) (number + lines.length) renumbered))
    (stack : Stack) :
    (transcribe options stack line (lines ++ after)).Renumbers f
      (transcribe options (stack.renumber f) number (lines ++ renumbered)) := by
  -- The two numbers are those of the first line that is left, before and after renumbering.
  induction lines generalizing line number stack with
  | nil => exact later stack
  | cons text lines ih =>
    have hnumber : f line = number := numbers 0 (Nat.succ_pos _)
    have heffect := lineEffect_renumber zero stack line text
    rw [hnumber] at heffect
    rw [List.cons_append, List.cons_append]
    cases haborts : (lineEffect stack line text).aborts with
    | true =>
      rw [transcribe_cons_of_aborts haborts,
        transcribe_cons_of_aborts (heffect.aborts.trans haborts)]
      exact ⟨heffect.diagnostics, rfl⟩
    | false =>
      have hnumbers : ∀ position < lines.length,
          f (line + 1 + position) = number + 1 + position := by
        intro position hposition
        rw [Nat.add_right_comm line, Nat.add_right_comm number]
        exact numbers (position + 1) (Nat.succ_lt_succ hposition)
      have hafter : ∀ reached : Stack,
          (transcribe options reached (line + 1 + lines.length) after).Renumbers f
            (transcribe options (reached.renumber f) (number + 1 + lines.length) renumbered) := by
        intro reached
        rw [Nat.add_right_comm line, Nat.add_right_comm number]
        exact later reached
      have hrest := ih hnumbers hafter (lineEffect stack line text).stack
      rw [transcribe_cons_of_goesOn haborts,
        transcribe_cons_of_goesOn (heffect.aborts.trans haborts), heffect.stack]
      refine ⟨?_, hrest.aborted⟩
      show _ ++ _ = List.map _ (_ ++ _)
      rw [heffect.diagnostics, hrest.diagnostics, List.map_append]

/-- Lines without a command take up their numbers and nothing else. -/
theorem transcribe_append_of_blank {blanks : List String}
    (blank : ∀ text ∈ blanks, ∀ c ∈ Text.code text.toList, Text.isBlank c = true) (stack : Stack)
    (after : List String) :
    transcribe options stack line (blanks ++ after) =
      transcribe options stack (line + blanks.length) after := by
  induction blanks generalizing line with
  | nil => rfl
  | cons text blanks ih =>
    have hline : line + (blanks.length + 1) = line + 1 + blanks.length := by omega
    have hnone := Command.ofLine_of_blank_code (blank text List.mem_cons_self) line
    have heffect := lineEffect_of_none stack hnone
    have hgoesOn : (lineEffect stack line text).aborts = false := by rw [heffect]
    rw [List.cons_append, transcribe_cons_of_goesOn hgoesOn, heffect, Transcript.prepend_nothing,
      List.length_cons, hline]
    exact ih fun text hmem => blank text (List.mem_cons_of_mem _ hmem)

end Transcripts

/-- The number of a line once there are more lines after the one numbered `last`. -/
def shiftBelow (last count number : Nat) : Nat :=
  if number ≤ last then number else number + count

section Insertions

variable {last count number : Nat}

theorem shiftBelow_of_le (h : number ≤ last) : shiftBelow last count number = number := if_pos h

theorem shiftBelow_of_lt (h : last < number) :
    shiftBelow last count number = number + count :=
  if_neg (Nat.not_le.mpr h)

theorem shiftBelow_eq_zero_iff (last count number : Nat) :
    shiftBelow last count number = 0 ↔ number = 0 := by
  unfold shiftBelow
  split <;> omega

theorem transcribe_insert (options : Options) (limits : Limits) {inserted : List String}
    (blank : ∀ text ∈ inserted, ∀ c ∈ Text.code text.toList, Text.isBlank c = true)
    (before after : List String) :
    (transcribe options { limits } 1 (before ++ after)).Renumbers
      (shiftBelow before.length inserted.length)
      (transcribe options { limits } 1 (before ++ (inserted ++ after))) := by
  have zero := shiftBelow_eq_zero_iff before.length inserted.length
  apply transcribe_renumber_append zero
  · intro position hposition
    exact shiftBelow_of_le (by omega)
  · intro stack
    rw [transcribe_append_of_blank blank]
    have hend : after = after ++ [] := (List.append_nil after).symm
    rw [hend]
    apply transcribe_renumber_append zero
    · intro position _
      rw [shiftBelow_of_lt (by omega)]
      omega
    · exact closingTranscript_renumber options

/-- Reports follow the text. With lines inserted that are blank up to their comment, a replay finds
the same as without them, in the same order and the same words, and ends early if it did so without
them. What was said of a line that has moved down, or related to one, is now said of the line in its
new place. -/
theorem inserted_lines_shift_reports (options : Options) (source longer : String)
    (before inserted after : List String)
    (lines : sourceLines source = before ++ after)
    (edited : sourceLines longer = before ++ inserted ++ after)
    (blank : ∀ text ∈ inserted, ∀ c ∈ Text.code text.toList, Text.isBlank c = true) :
    ∃ found aborted,
      (replay options source).findings? = some ⟨found, aborted⟩ ∧
      (replay options longer).findings? = some
        ⟨found.map (Diagnostic.renumber (shiftBelow before.length inserted.length)), aborted⟩ := by
  have hrenumbers := transcribe_insert options options.limits blank before after
  rw [← lines, ← List.append_assoc, ← edited] at hrenumbers
  have hold := ((live_start options).yields_runLines options 1 (sourceLines source)).findings?
  have hnew := ((live_start options).yields_runLines options 1 (sourceLines longer)).findings?
  refine ⟨_, _, hold, ?_⟩
  have hstack : (replayUpTo options []).stack = { limits := options.limits } := rfl
  rw [hstack, hrenumbers.diagnostics, hrenumbers.aborted] at hnew
  exact hnew

/-- A comment and an empty line between two declarations of a name move the second one only. -/
theorem inserted_lines_shift_duplicate :
    let source := "enter\ndeclare x int var\ndeclare x real var\nexit\nexit"
    let longer := "enter\ndeclare x int var\n # again\n\ndeclare x real var\nexit\nexit"
    let duplicate := fun line : Nat => duplicateReport "x" 2 line
    let closed := fun line : Nat => Fault.noOpenScope.report.atLine line
    (replay {} source).findings? = some ⟨[duplicate 3, closed 5], true⟩ ∧
      (replay {} longer).findings? = some ⟨[duplicate 5, closed 7], true⟩ := by
  intro source longer duplicate closed
  have blank : ∀ text ∈ [" # again", ""], ∀ c ∈ Text.code text.toList, Text.isBlank c = true := by
    simp only [← List.all_eq_true]
    decide +kernel
  obtain ⟨found, aborted, hold, hnew⟩ := inserted_lines_shift_reports {} source longer
    ["enter", "declare x int var"] [" # again", ""] ["declare x real var", "exit", "exit"]
    (by decide +kernel) (by decide +kernel) blank
  have hfindings : (replay {} source).findings? = some ⟨[duplicate 3, closed 5], true⟩ := by
    decide +kernel
  rw [hfindings] at hold
  cases hold
  exact ⟨hfindings, hnew⟩

end Insertions

end Script

end Scoping
