import Scoping.Proofs.Balance

namespace Scoping

def Stack.Holds (stack : Stack) (symbol : Symbol) : Prop :=
  ∃ scope ∈ stack.scopes, symbol ∈ scope.symbols.items

theorem Fault.notes_report_of_structural {fault : Fault} (h : fault.isStructural = true) :
    fault.report.notes = [] := by
  cases fault with
  | duplicate | invalidName | tagTooLong | unresolved => simp [isStructural] at h
  | scopeMismatch | noOpenScope | closedScope | invalidLine | addressesExhausted
  | missingSymbol => rfl

namespace Script

/-- The line with the number declares the name, and the replay comes to it and accepts it. -/
inductive Accepts (options : Options) (lines : List String) (number : Nat) (name : String) : Prop
  | line (before : List String) (text : String) (after : List String)
      (split : lines = before ++ text :: after) (place : number = before.length + 1)
      (running : (replayUpTo options before).status = .running) {type kind : String}
      (read : Command.ofLine text number = .ok (some (.declare name type kind))) {next : Stack}
      (run : Command.runDeclare (replayUpTo options before).stack number name type kind = .ok next)

/-- The diagnostic is about a declaration, and the note about an earlier one of the same name, which
was accepted. -/
inductive PointsBack (options : Options) (lines : List String) (diagnostic : Diagnostic)
    (note : Note) : Prop
  | line (before : List String) (text : String) (after : List String)
      (split : lines = before ++ text :: after) {number : Nat} (place : number = before.length + 1)
      (found : diagnostic.line = some number) {name type kind : String}
      (read : Command.ofLine text number = .ok (some (.declare name type kind)))
      (earlier : note.line < number) (accepted : Accepts options lines note.line name)

/-- All that a line can do on a stack. -/
inductive LineOutcome (stack : Stack) (line : Nat) (text : String) : LineEffect → Prop
  | enters (keyword : keywordOf? text = some .enter) :
      LineOutcome stack line text { stack := stack.enter.2 }
  | exits (keyword : keywordOf? text = some .exit) (nonempty : stack.scopes ≠ []) :
      LineOutcome stack line text { stack := { stack with scopes := stack.scopes.dropLast } }
  | declares {name type kind : String} {next : Stack}
      (read : Command.ofLine text line = .ok (some (.declare name type kind)))
      (run : Command.runDeclare stack line name type kind = .ok next) :
      LineOutcome stack line text { stack := next }
  | refuses {name type kind : String} {fault : Fault}
      (read : Command.ofLine text line = .ok (some (.declare name type kind)))
      (run : Command.runDeclare stack line name type kind = .error fault)
      (semantic : fault.isStructural = false) :
      LineOutcome stack line text { stack, diagnostics := [fault.report] }
  | prints (printed : String)
      (keyword : keywordOf? text ≠ some .enter ∧ keywordOf? text ≠ some .exit) :
      LineOutcome stack line text { stack, text := printed }
  | reports {report : Diagnostic} (isError : report.isError = true) (plain : report.notes = [])
      (keyword : keywordOf? text ≠ some .enter ∧ keywordOf? text ≠ some .exit) :
      LineOutcome stack line text { stack, diagnostics := [report] }
  | aborts {report : Diagnostic} (isError : report.isError = true) (plain : report.notes = []) :
      LineOutcome stack line text { stack, diagnostics := [report], aborts := true }

section Lines

variable {stack : Stack} {line : Nat} {text : String} {effect : LineEffect}

theorem LineFault.notes_report (fault : LineFault) : fault.report.notes = [] := by
  cases fault <;> rfl

theorem lineOutcome_of_structural {command : Command} {fault : Fault}
    (run : command.run stack line = .error fault) (structural : fault.isStructural = true) :
    LineOutcome stack line text (command.effect stack line) := by
  rw [Command.effect_of_structural run structural]
  exact .aborts fault.isError_report (Fault.notes_report_of_structural structural)

theorem lineOutcome_of_exit (read : Command.ofLine text line = .ok (some .exit)) :
    LineOutcome stack line text (Command.exit.effect stack line) := by
  cases hexit : Command.runExit stack with
  | ok next =>
    have hrun : Command.exit.run stack line = .ok (next, "") := by
      rw [Command.run, hexit]
      rfl
    obtain ⟨handle, hinnermost, hnext⟩ := Command.runExit_eq_ok_iff.mp hexit
    obtain ⟨_, rfl⟩ := Stack.exit_eq_ok_iff.mp hnext
    rw [Command.effect_of_ok hrun]
    refine .exits (keywordOf?_of_ok read) ?_
    intro hnil
    rw [Stack.innermost_eq_error_iff.mpr ⟨hnil, rfl⟩] at hinnermost
    simp at hinnermost
  | error fault =>
    have hrun : Command.exit.run stack line = .error fault := by
      rw [Command.run, hexit]
      rfl
    exact lineOutcome_of_structural hrun (Command.isStructural_of_runExit hexit)

theorem lineOutcome_of_declare {name type kind : String}
    (read : Command.ofLine text line = .ok (some (.declare name type kind))) :
    LineOutcome stack line text ((Command.declare name type kind).effect stack line) := by
  cases hdeclare : Command.runDeclare stack line name type kind with
  | ok next =>
    have hrun : (Command.declare name type kind).run stack line = .ok (next, "") := by
      rw [Command.run, hdeclare]
      rfl
    rw [Command.effect_of_ok hrun]
    exact .declares read hdeclare
  | error fault =>
    have hrun : (Command.declare name type kind).run stack line = .error fault := by
      rw [Command.run, hdeclare]
      rfl
    cases hstructural : fault.isStructural with
    | true => exact lineOutcome_of_structural hrun hstructural
    | false =>
      rw [Command.effect_of_semantic hrun hstructural]
      exact .refuses read hdeclare hstructural

theorem lineOutcome_of_resolve {name : String}
    (read : Command.ofLine text line = .ok (some (.resolve name))) :
    LineOutcome stack line text ((Command.resolve name).effect stack line) := by
  have hkeyword : keywordOf? text = some .resolve := keywordOf?_of_ok read
  have hother : keywordOf? text ≠ some .enter ∧ keywordOf? text ≠ some .exit := by
    rw [hkeyword]
    decide
  cases hresolve : Command.runResolve stack line name with
  | ok printed =>
    have hrun : (Command.resolve name).run stack line = .ok (stack, printed) := by
      rw [Command.run, hresolve]
      rfl
    rw [Command.effect_of_ok hrun]
    exact .prints printed hother
  | error fault =>
    have hrun : (Command.resolve name).run stack line = .error fault := by
      rw [Command.run, hresolve]
      rfl
    obtain rfl := Command.eq_unresolved_of_runResolve hresolve
    rw [Command.effect_of_semantic hrun rfl]
    exact .reports (Fault.isError_report _) rfl hother

theorem lineOutcome (stack : Stack) (line : Nat) (text : String) :
    LineOutcome stack line text (lineEffect stack line text) := by
  cases hread : Command.ofLine text line with
  | error fault =>
    have hkeyword := keywordOf?_of_error hread
    rw [lineEffect_of_error stack hread]
    exact .reports fault.isError_report fault.notes_report (by simp [hkeyword])
  | ok read =>
    have hkeyword := keywordOf?_of_ok hread
    cases read with
    | none =>
      rw [lineEffect_of_none stack hread]
      exact .prints "" (by simp [hkeyword])
    | some command =>
      rw [lineEffect_of_command stack hread]
      cases command with
      | enter => exact .enters hkeyword
      | exit => exact lineOutcome_of_exit hread
      | declare name type kind => exact lineOutcome_of_declare hread
      | resolve name => exact lineOutcome_of_resolve hread
      | dump => exact .prints stack.dump (by simp [hkeyword, Command.keyword])

theorem Command.holds_of_runDeclare {name type kind : String} {next : Stack} {symbol : Symbol}
    (run : runDeclare stack line name type kind = .ok next) (holds : next.Holds symbol) :
    stack.Holds symbol ∨ symbol.toDeclaration = declaration name type kind line := by
  obtain ⟨handle, _, _, _, hdeclare⟩ := runDeclare_eq_ok_iff.mp run
  obtain ⟨scope, changed, hscope, _, hdeclared, rfl⟩ := Stack.declare_eq_ok_iff.mp hdeclare
  obtain ⟨_, _, _, rfl⟩ := Scope.declare_eq_ok_iff.mp hdeclared
  obtain ⟨other, hother, hsymbol⟩ := holds
  rcases List.mem_or_eq_of_mem_set hother with hother | rfl
  · exact Or.inl ⟨other, hother, hsymbol⟩
  · rw [Scope.items_add, List.mem_append, List.mem_singleton] at hsymbol
    rcases hsymbol with hsymbol | rfl
    · exact Or.inl ⟨scope, Stack.mem_of_scope? hscope, hsymbol⟩
    · exact Or.inr rfl

theorem Command.depth_of_runDeclare {name type kind : String} {next : Stack}
    (run : runDeclare stack line name type kind = .ok next) : next.depth = stack.depth := by
  obtain ⟨handle, _, _, _, hdeclare⟩ := runDeclare_eq_ok_iff.mp run
  obtain ⟨_, changed, _, _, _, rfl⟩ := Stack.declare_eq_ok_iff.mp hdeclare
  exact stack.depth_put handle changed

/-- A declaration that is refused with a note is refused for the symbol whose line the note
names. -/
theorem Command.exists_first_of_runDeclare (sound : stack.Sound) {name type kind : String}
    {fault : Fault} {note : Note} (run : runDeclare stack line name type kind = .error fault)
    (noted : note ∈ fault.report.notes) :
    ∃ first, stack.Holds first ∧ first.name = name ∧ first.line = note.line := by
  unfold runDeclare at run
  split at run
  · next hinnermost =>
    rw [← Except.error.inj run, Fault.notes_report_of_structural
      (Stack.isStructural_of_innermost hinnermost)] at noted
    simp at noted
  · split at run
    · next htags =>
      obtain ⟨tag, _, _, hfault⟩ := Limits.exists_tag_of_tagsFault? htags
      rw [← Except.error.inj run, hfault] at noted
      simp [Fault.report, Diagnostic.error] at noted
    · -- Of all refusals only that of a duplicate carries a note.
      cases Stack.refusal_of_declare (eq_error_of_map_eq_error run) with
      | closed | line | name | tag | exhausted | missing =>
        simp [Fault.report, Diagnostic.error] at noted
      | duplicate found named stored =>
        have hmem := Stack.mem_of_scope? found
        obtain ⟨symbol, hsymbol, hname⟩ := (sound _ hmem).get?_of_lookup? named
        obtain rfl := Option.some.inj (stored.symm.trans hsymbol)
        obtain rfl := List.mem_singleton.mp noted
        exact ⟨_, ⟨_, hmem, Scope.mem_items_of_get? stored⟩, hname, rfl⟩

namespace LineOutcome

theorem found (outcome : LineOutcome stack line text effect) :
    effect.diagnostics = [] ∨
      ∃ report, effect.diagnostics = [report] ∧ report.isError = true := by
  cases outcome with
  | enters | exits | declares | prints => exact Or.inl rfl
  | refuses => exact Or.inr ⟨_, rfl, Fault.isError_report _⟩
  | reports isError | aborts isError => exact Or.inr ⟨_, rfl, isError⟩

theorem ne_nil_of_aborts (outcome : LineOutcome stack line text effect)
    (aborts : effect.aborts = true) : effect.diagnostics ≠ [] := by
  cases outcome with
  | enters | exits | declares | refuses | prints | reports => simp at aborts
  | aborts => exact List.cons_ne_nil _ _

/-- A line that the replay goes on after moves the depth as its keyword says. -/
theorem depth (outcome : LineOutcome stack line text effect) (goesOn : effect.aborts = false) :
    effect.stack.depth + [keywordOf? text].count (some .exit) =
      stack.depth + [keywordOf? text].count (some .enter) := by
  cases outcome with
  | enters keyword =>
    rw [keyword, Stack.depth_enter]
    rfl
  | exits keyword nonempty =>
    have hpos := List.length_pos_iff.mpr nonempty
    rw [keyword, Stack.depth, List.length_dropLast, Stack.depth]
    show stack.scopes.length - 1 + 1 = stack.scopes.length + 0
    omega
  | declares read run =>
    have hkeyword : keywordOf? text = some .declare := keywordOf?_of_ok read
    rw [hkeyword]
    exact Command.depth_of_runDeclare run
  | refuses read run =>
    have hkeyword : keywordOf? text = some .declare := keywordOf?_of_ok read
    rw [hkeyword]
    rfl
  | prints _ keyword | reports _ _ keyword =>
    rw [List.count_singleton, List.count_singleton]
    simp [keyword.1, keyword.2]
  | aborts => simp at goesOn

theorem holds (outcome : LineOutcome stack line text effect) {symbol : Symbol}
    (h : effect.stack.Holds symbol) :
    stack.Holds symbol ∨ ∃ name type kind,
      Command.ofLine text line = .ok (some (.declare name type kind)) ∧
      Command.runDeclare stack line name type kind = .ok effect.stack ∧
      symbol.toDeclaration = declaration name type kind line := by
  cases outcome with
  | enters =>
    obtain ⟨scope, hscope, hsymbol⟩ := h
    rw [Stack.scopes_enter, List.mem_append, List.mem_singleton] at hscope
    rcases hscope with hscope | rfl
    · exact Or.inl ⟨scope, hscope, hsymbol⟩
    · simp [Store.empty] at hsymbol
  | exits =>
    obtain ⟨scope, hscope, hsymbol⟩ := h
    exact Or.inl ⟨scope, List.dropLast_subset _ hscope, hsymbol⟩
  | declares read run =>
    rcases Command.holds_of_runDeclare run h with hold | hdeclaration
    · exact Or.inl hold
    · exact Or.inr ⟨_, _, _, read, run, hdeclaration⟩
  | refuses | prints | reports | aborts => exact Or.inl h

/-- A note in what a line reports names the line of a symbol with the name that the line
declares. -/
theorem exists_first (outcome : LineOutcome stack line text effect) (sound : stack.Sound)
    {diagnostic : Diagnostic} {note : Note} (reported : diagnostic ∈ effect.diagnostics)
    (noted : note ∈ diagnostic.notes) :
    ∃ name type kind first, Command.ofLine text line = .ok (some (.declare name type kind)) ∧
      stack.Holds first ∧ first.name = name ∧ first.line = note.line := by
  cases outcome with
  | enters | exits | declares | prints => simp at reported
  | refuses read run =>
    rw [List.mem_singleton.mp reported] at noted
    obtain ⟨first, hfirst⟩ := Command.exists_first_of_runDeclare sound run noted
    exact ⟨_, _, _, first, read, hfirst⟩
  | reports _ plain | aborts _ plain =>
    rw [List.mem_singleton.mp reported, plain] at noted
    simp at noted

end LineOutcome

/-- What a line reports is one error with the number of the line, if it is anything. -/
theorem found_lineEffect (stack : Stack) (line : Nat) (text : String) :
    (lineEffect stack line text).diagnostics = [] ∨
      ∃ report, (lineEffect stack line text).diagnostics = [report] ∧ report.isError = true ∧
        report.line = some line := by
  rcases (lineOutcome stack line text).found with hnone | ⟨report, hreport, herror⟩
  · exact Or.inl hnone
  · have hmem : report ∈ (lineEffect stack line text).diagnostics := by
      rw [hreport]
      exact List.mem_cons_self
    exact Or.inr ⟨report, hreport, herror, line_of_mem_lineEffect hmem⟩

end Lines

section Prefixes

variable {options : Options} {lines : List String} {number : Nat} {name : String}

theorem Accepts.append (accepts : Accepts options lines number name) (more : List String) :
    Accepts options (lines ++ more) number name := by
  obtain ⟨before, text, after, rfl, place, running, read, run⟩ := accepts
  exact ⟨before, text, after ++ more, by simp, place, running, read, run⟩

theorem Accepts.le_length (accepts : Accepts options lines number name) :
    number ≤ lines.length := by
  obtain ⟨before, text, after, rfl, place, _⟩ := accepts
  rw [List.length_append, List.length_cons]
  omega

theorem PointsBack.append {diagnostic : Diagnostic} {note : Note}
    (points : PointsBack options lines diagnostic note) (more : List String) :
    PointsBack options (lines ++ more) diagnostic note := by
  obtain ⟨before, text, after, rfl, place, found, read, earlier, accepted⟩ := points
  exact ⟨before, text, after ++ more, by simp, place, found, read, earlier, accepted.append more⟩

structure InOrder (lines : List String) (diagnostics : List Diagnostic) (numbers : List Nat) :
    Prop where
  places : diagnostics.map Diagnostic.line = numbers.map some
  increase : numbers.Pairwise (· < ·)
  bounds : ∀ number ∈ numbers, 1 ≤ number ∧ number ≤ lines.length

/-- What a replay has come to after lines of a script, as far as the lines account for it. -/
structure Explained (options : Options) (lines : List String) : Prop where
  errors : ∀ diagnostic ∈ (replayUpTo options lines).diagnostics, diagnostic.isError = true
  inOrder : ∃ numbers, InOrder lines (replayUpTo options lines).diagnostics numbers
  notes : ∀ diagnostic ∈ (replayUpTo options lines).diagnostics, ∀ note ∈ diagnostic.notes,
    PointsBack options lines diagnostic note
  symbols : ∀ symbol, (replayUpTo options lines).stack.Holds symbol →
    Accepts options lines symbol.line symbol.name
  depth : (replayUpTo options lines).status = .running →
    (replayUpTo options lines).stack.depth + (keywords lines).count (some .exit) =
      (keywords lines).count (some .enter)
  ended : (replayUpTo options lines).status ≠ .running →
    (replayUpTo options lines).status = .aborted ∧ (replayUpTo options lines).diagnostics ≠ []

theorem InOrder.append {diagnostics : List Diagnostic} {numbers : List Nat}
    (inOrder : InOrder lines diagnostics numbers) (more : List String) :
    InOrder (lines ++ more) diagnostics numbers := by
  refine ⟨inOrder.places, inOrder.increase, fun number hnumber => ?_⟩
  obtain ⟨hpos, hle⟩ := inOrder.bounds number hnumber
  rw [List.length_append]
  omega

theorem InOrder.concat {diagnostics : List Diagnostic} {numbers : List Nat}
    (inOrder : InOrder lines diagnostics numbers) (text : String) {report : Diagnostic}
    (place : report.line = some (lines.length + 1)) :
    InOrder (lines ++ [text]) (diagnostics ++ [report]) (numbers ++ [lines.length + 1]) where
  places := by
    rw [List.map_append, List.map_append, inOrder.places, List.map_singleton, place]
    rfl
  increase := by
    rw [List.pairwise_append]
    refine ⟨inOrder.increase, List.pairwise_singleton _ _, fun number hnumber last hlast => ?_⟩
    have hle := (inOrder.bounds number hnumber).2
    rw [List.mem_singleton.mp hlast]
    omega
  bounds number hnumber := by
    rw [List.length_append, List.length_singleton]
    rcases List.mem_append.mp hnumber with hold | hnew
    · have hbounds := inOrder.bounds number hold
      omega
    · have hlast := List.mem_singleton.mp hnew
      omega

theorem sound_replayUpTo (options : Options) (lines : List String) :
    (replayUpTo options lines).stack.Sound := by
  obtain ⟨calls, _, hstack⟩ := Session.exists_calls_runLines (replayUpTo options []) 1 lines
  have hsound := (Stack.sound_performAll options.limits calls).2
  show ((replayUpTo options []).runLines 1 lines).stack.Sound
  rw [hstack]
  exact hsound

theorem replayUpTo_concat_of_ended (ended : (replayUpTo options lines).status ≠ .running)
    (text : String) : replayUpTo options (lines ++ [text]) = replayUpTo options lines := by
  rw [replayUpTo_append, Session.runLines_of_ne_running ended]

theorem exists_found_concat (options : Options) (lines : List String) (text : String) :
    ∃ found, (replayUpTo options (lines ++ [text])).diagnostics =
        (replayUpTo options lines).diagnostics ++ found ∧ found.length ≤ 1 ∧
      ∀ diagnostic ∈ found, diagnostic.isError = true ∧
        diagnostic.line = some (lines.length + 1) := by
  by_cases running : (replayUpTo options lines).status = .running
  · have follows := follows_replayUpTo running text
    refine ⟨_, follows.diagnostics, ?_⟩
    rcases found_lineEffect _ _ text with hnone | ⟨report, hreport, hfacts⟩
    · rw [hnone]
      exact ⟨Nat.zero_le 1, by simp⟩
    · rw [hreport]
      refine ⟨Nat.le_refl 1, fun diagnostic hmem => ?_⟩
      rw [List.mem_singleton.mp hmem]
      exact hfacts
  · refine ⟨[], ?_, Nat.zero_le 1, by simp⟩
    rw [replayUpTo_concat_of_ended running, List.append_nil]

theorem aborted_concat (running : (replayUpTo options lines).status = .running) (text : String)
    (ended : (replayUpTo options (lines ++ [text])).status ≠ .running) :
    (replayUpTo options (lines ++ [text])).status = .aborted ∧
      (replayUpTo options (lines ++ [text])).diagnostics ≠ [] := by
  have follows := follows_replayUpTo running text
  have haborts : (lineEffect (replayUpTo options lines).stack (lines.length + 1) text).aborts =
      true := by
    rw [← Bool.not_eq_false]
    intro goesOn
    rw [follows.status, goesOn] at ended
    exact ended running
  refine ⟨follows.status_of_aborts haborts, ?_⟩
  rw [follows.diagnostics]
  exact List.append_ne_nil_of_right_ne_nil _ ((lineOutcome _ _ text).ne_nil_of_aborts haborts)

namespace Explained

theorem start (options : Options) : Explained options [] where
  errors := by simp [replayUpTo, Session.runLines]
  inOrder := ⟨[], rfl, List.Pairwise.nil, by simp⟩
  notes := by simp [replayUpTo, Session.runLines]
  symbols := by
    rintro symbol ⟨scope, hscope, _⟩
    simp [replayUpTo, Session.runLines] at hscope
  depth _ := rfl
  ended h := absurd rfl h

theorem concat_of_ended (explained : Explained options lines)
    (ended : (replayUpTo options lines).status ≠ .running) (text : String) :
    Explained options (lines ++ [text]) := by
  have hsame := replayUpTo_concat_of_ended ended text
  obtain ⟨numbers, inOrder⟩ := explained.inOrder
  constructor <;> rw [hsame]
  · exact explained.errors
  · exact ⟨numbers, inOrder.append [text]⟩
  · exact fun diagnostic hmem note hnote => (explained.notes diagnostic hmem note hnote).append _
  · exact fun symbol holds => (explained.symbols symbol holds).append _
  · exact fun running => absurd running ended
  · exact explained.ended

/-- The symbol that a note on the next line is about is still there, so its line was accepted. -/
theorem pointsBack (explained : Explained options lines) (text : String)
    {diagnostic : Diagnostic} {note : Note}
    (reported : diagnostic ∈
      (lineEffect (replayUpTo options lines).stack (lines.length + 1) text).diagnostics)
    (noted : note ∈ diagnostic.notes) :
    PointsBack options (lines ++ [text]) diagnostic note := by
  have sound := sound_replayUpTo options lines
  obtain ⟨name, type, kind, first, read, holds, rfl, hline⟩ :=
    (lineOutcome _ _ text).exists_first sound reported noted
  have accepts := explained.symbols first holds
  rw [hline] at accepts
  -- Accepted lines are among those run so far, so the note points to a line before this one.
  have earlier := Nat.lt_succ_of_le accepts.le_length
  have hplace := line_of_mem_lineEffect reported
  exact ⟨lines, text, [], rfl, rfl, hplace, read, earlier, accepts.append [text]⟩

section Running

variable (explained : Explained options lines)
  (running : (replayUpTo options lines).status = .running) (text : String)
include explained running

theorem accepts_concat {symbol : Symbol}
    (holds : (replayUpTo options (lines ++ [text])).stack.Holds symbol) :
    Accepts options (lines ++ [text]) symbol.line symbol.name := by
  rw [(follows_replayUpTo running text).stack] at holds
  rcases (lineOutcome _ _ text).holds holds with
    hold | ⟨name, type, kind, read, run, hdeclaration⟩
  · exact (explained.symbols symbol hold).append [text]
  · have hname : symbol.name = name := congrArg Declaration.name hdeclaration
    have hline : symbol.line = lines.length + 1 := congrArg Declaration.line hdeclaration
    rw [hname, hline]
    exact ⟨lines, text, [], rfl, rfl, running, read, run⟩

theorem depth_concat (goesOn : (replayUpTo options (lines ++ [text])).status = .running) :
    (replayUpTo options (lines ++ [text])).stack.depth +
        (keywords (lines ++ [text])).count (some .exit) =
      (keywords (lines ++ [text])).count (some .enter) := by
  have follows := follows_replayUpTo running text
  have hkeywords : keywords (lines ++ [text]) = keywords lines ++ [keywordOf? text] :=
    List.map_append
  have haborts : (lineEffect (replayUpTo options lines).stack (lines.length + 1) text).aborts =
      false := by
    rw [← Bool.not_eq_true]
    intro haborts
    exact follows.ne_running haborts goesOn
  have hbefore := explained.depth running
  have hdepth := (lineOutcome _ _ text).depth haborts
  rw [follows.stack, hkeywords, List.count_append, List.count_append]
  omega

theorem inOrder_concat :
    ∃ numbers, InOrder (lines ++ [text]) (replayUpTo options (lines ++ [text])).diagnostics
      numbers := by
  obtain ⟨numbers, inOrder⟩ := explained.inOrder
  rw [(follows_replayUpTo running text).diagnostics]
  rcases found_lineEffect _ _ text with hnone | ⟨report, hreport, _, hplace⟩
  · rw [hnone, List.append_nil]
    exact ⟨numbers, inOrder.append [text]⟩
  · rw [hreport]
    exact ⟨_, inOrder.concat text hplace⟩

theorem concat_of_running : Explained options (lines ++ [text]) where
  errors diagnostic hmem := by
    obtain ⟨found, hfound, _, hreported⟩ := exists_found_concat options lines text
    rw [hfound] at hmem
    rcases List.mem_append.mp hmem with hold | hnew
    · exact explained.errors diagnostic hold
    · exact (hreported diagnostic hnew).1
  inOrder := explained.inOrder_concat running text
  notes diagnostic hmem note hnote := by
    rw [(follows_replayUpTo running text).diagnostics] at hmem
    rcases List.mem_append.mp hmem with hold | hnew
    · exact (explained.notes diagnostic hold note hnote).append [text]
    · exact explained.pointsBack text hnew hnote
  symbols _ holds := explained.accepts_concat running text holds
  depth := explained.depth_concat running text
  ended := aborted_concat running text

end Running

end Explained

/-- At every point the lines run so far account for what a replay has found and for what its stack
holds. -/
theorem explained_replayUpTo (options : Options) (lines : List String) :
    Explained options lines := by
  induction lines using List.reverseRecOn with
  | nil => exact .start options
  | append_singleton before text ih =>
    by_cases running : (replayUpTo options before).status = .running
    · exact ih.concat_of_running running text
    · exact ih.concat_of_ended running text

end Prefixes

/-- The scopes that are left open are those that were opened and not closed. -/
theorem diagnostics_closingTranscript (options : Options) {stack : Stack} {enters exits : Nat}
    (h : stack.depth + exits = enters) :
    (closingTranscript options stack).diagnostics = if exits < enters then
      [.warning s!"{enters - exits} scope(s) left open at the end of the script"] else [] := by
  have hopen : stack.depth = enters - exits := by omega
  show (if stack.depth = 0 then [] else _) = _
  rw [hopen]
  by_cases hmore : exits < enters
  · rw [if_neg (by omega), if_pos hmore]
  · rw [if_pos (by omega), if_neg hmore]

/-- At its end a replay that is still under way counts the scopes that stay open. One that was
aborted has reported why and adds nothing. -/
theorem findings?_replay (options : Options) (source : String) :
    let lines := sourceLines source
    let enters := (keywords lines).count (some .enter)
    let exits := (keywords lines).count (some .exit)
    let errors := (replayUpTo options lines).diagnostics
    ∃ (warnings : List Diagnostic) (aborted : Bool),
      (replay options source).findings? = some ⟨errors ++ warnings, aborted⟩ ∧
      warnings = (if aborted = false ∧ exits < enters then
        [.warning s!"{enters - exits} scope(s) left open at the end of the script"] else []) ∧
      (aborted = true → errors ≠ []) := by
  intro lines enters exits errors
  have explained := explained_replayUpTo options lines
  have hreplay : replay options source = (replayUpTo options lines).finish options := rfl
  by_cases running : (replayUpTo options lines).status = .running
  · have yields := (live_replayUpTo running).yields_finish options
    have hwarnings := diagnostics_closingTranscript options (explained.depth running)
    refine ⟨_, false, yields.findings?, ?_, by simp⟩
    simpa using hwarnings
  · obtain ⟨aborted, hne⟩ := explained.ended running
    refine ⟨[], true, ?_, by simp, fun _ => hne⟩
    rw [hreplay, Session.finish_of_ne_running running, Session.findings?, aborted,
      List.append_nil]
    rfl

/-- An aborted replay or an error among the findings: it is enough to look for something other than
a warning. -/
theorem Findings.failed_iff {errors warnings : List Diagnostic} {aborted : Bool}
    (isError : ∀ diagnostic ∈ errors, diagnostic.isError = true)
    (isWarning : ∀ diagnostic ∈ warnings, diagnostic.isError = false)
    (reported : aborted = true → errors ≠ []) :
    Findings.failed ⟨errors ++ warnings, aborted⟩ = true ↔
      ∃ diagnostic ∈ errors ++ warnings, diagnostic ∉ warnings := by
  have hother : ∀ diagnostic ∈ errors, diagnostic ∉ warnings := by
    intro diagnostic herror hwarning
    have hcontra := (isError diagnostic herror).symm.trans (isWarning diagnostic hwarning)
    simp at hcontra
  rw [Findings.failed, Bool.or_eq_true, List.any_eq_true]
  constructor
  · rintro (haborted | ⟨diagnostic, hmem, herror⟩)
    · obtain ⟨diagnostic, hmem⟩ := List.exists_mem_of_ne_nil errors (reported haborted)
      exact ⟨diagnostic, List.mem_append_left warnings hmem, hother diagnostic hmem⟩
    · refine ⟨diagnostic, hmem, fun hwarning => ?_⟩
      rw [isWarning diagnostic hwarning] at herror
      simp at herror
  · rintro ⟨diagnostic, hmem, hnot⟩
    have herror : diagnostic ∈ errors := (List.mem_append.mp hmem).resolve_right hnot
    exact Or.inr ⟨diagnostic, hmem, isError diagnostic herror⟩

/-- Of every script under all options, a replay into a sink without a limit finds errors and at most
one warning after them. The errors are on lines of their own, in order: each line adds at most one
to what the lines before it gave rise to, with its own number. The warning comes when the replay was
not aborted and more scopes were opened than closed, and says how many. A note is about an earlier
declaration of the name that its line declares, and that declaration was accepted. So the replay has
failed exactly if something other than the warning was found, and after an abort the last thing
found is an error. -/
theorem findings_follow_lines (options : Options) (source : String) :
    let lines := sourceLines source
    let enters := (keywords lines).count (some .enter)
    let exits := (keywords lines).count (some .exit)
    ∃ (errors warnings : List Diagnostic) (aborted : Bool),
      (replay options source).findings? = some ⟨errors ++ warnings, aborted⟩ ∧
      (∀ diagnostic ∈ errors, diagnostic.severity = .error) ∧
      (∃ numbers, InOrder lines errors numbers) ∧
      errors = (replayUpTo options lines).diagnostics ∧
      (∀ before text after, lines = before ++ text :: after →
        ∃ found, (replayUpTo options (before ++ [text])).diagnostics =
            (replayUpTo options before).diagnostics ++ found ∧ found.length ≤ 1 ∧
          ∀ diagnostic ∈ found, diagnostic.line = some (before.length + 1)) ∧
      warnings = (if aborted = false ∧ exits < enters then
        [.warning s!"{enters - exits} scope(s) left open at the end of the script"] else []) ∧
      (∀ diagnostic ∈ errors ++ warnings, ∀ note ∈ diagnostic.notes,
        PointsBack options lines diagnostic note) ∧
      (Findings.failed ⟨errors ++ warnings, aborted⟩ = true ↔
        ∃ diagnostic ∈ errors ++ warnings, diagnostic ∉ warnings) ∧
      (aborted = true →
        ∃ last, (errors ++ warnings).getLast? = some last ∧ last.severity = .error) := by
  intro lines enters exits
  have explained := explained_replayUpTo options lines
  obtain ⟨warnings, aborted, hfindings, hwarnings, hreported⟩ := findings?_replay options source
  have plain : ∀ diagnostic ∈ warnings, diagnostic.isError = false ∧ diagnostic.notes = [] := by
    intro diagnostic hmem
    rw [hwarnings] at hmem
    split at hmem
    · rw [List.mem_singleton.mp hmem]
      exact ⟨rfl, rfl⟩
    · simp at hmem
  have hseverity : ∀ diagnostic ∈ (replayUpTo options lines).diagnostics,
      diagnostic.severity = .error := fun diagnostic h =>
    of_decide_eq_true (explained.errors diagnostic h)
  refine ⟨_, warnings, aborted, hfindings, hseverity, explained.inOrder, rfl, ?_, hwarnings,
    ?_, ?_, ?_⟩
  · intro before text _ _
    obtain ⟨found, hfound, hlength, hmem⟩ := exists_found_concat options before text
    exact ⟨found, hfound, hlength, fun diagnostic h => (hmem diagnostic h).2⟩
  · intro diagnostic hmem note hnote
    rcases List.mem_append.mp hmem with herror | hwarning
    · exact explained.notes diagnostic herror note hnote
    · rw [(plain diagnostic hwarning).2] at hnote
      simp at hnote
  · have hwarning := fun diagnostic h => (plain diagnostic h).1
    exact Findings.failed_iff explained.errors hwarning hreported
  · intro haborted
    have hnone : warnings = [] := by
      rw [hwarnings, haborted]
      simp
    have hne := hreported haborted
    rw [hnone, List.append_nil]
    exact ⟨_, List.getLast?_eq_some_getLast hne, hseverity _ (List.getLast_mem hne)⟩

/-- A duplicate of an accepted declaration, and an `exit` too many after it. -/
theorem findings_follow_lines_up_to_abort :
    let source := "enter\ndeclare x int var\ndeclare x real var\nexit\nexit"
    let duplicate := (Fault.duplicate "x" ⟨0, 0⟩ 2 3 ⟨⟨0, 0⟩, ⟨0⟩⟩).report
    let last := Fault.noOpenScope.report.atLine 5
    (replay {} source).findings? = some ⟨[duplicate, last], true⟩ ∧
      PointsBack {} (sourceLines source) duplicate ⟨2, "previously declared here"⟩ ∧
      last.severity = .error ∧
      ∃ found, (replayUpTo {} ["enter", "declare x int var", "declare x real var"]).diagnostics =
          (replayUpTo {} ["enter", "declare x int var"]).diagnostics ++ found ∧ found.length ≤ 1 ∧
        ∀ diagnostic ∈ found, diagnostic.line = some 3 := by
  intro source duplicate last
  have lines : sourceLines source =
      ["enter", "declare x int var"] ++ "declare x real var" :: ["exit", "exit"] := by
    decide +kernel
  have hsource : (replay {} source).findings? = some ⟨[duplicate, last], true⟩ := by
    decide +kernel
  obtain ⟨errors, warnings, aborted, hfindings, -, -, -, hcauses, -, hnotes, -, hlast⟩ :=
    findings_follow_lines {} source
  rw [hsource, Option.some.injEq, Findings.mk.injEq] at hfindings
  obtain ⟨hfound, haborted⟩ := hfindings
  rw [← hfound] at hnotes hlast
  refine ⟨hsource, ?_, ?_, hcauses _ _ _ lines⟩
  · exact hnotes duplicate List.mem_cons_self _ List.mem_cons_self
  · obtain ⟨other, hother, herror⟩ := hlast haborted.symm
    obtain rfl : last = other := Option.some.inj hother
    exact herror

end Script

end Scoping
