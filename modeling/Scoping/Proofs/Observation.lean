import Scoping.Proofs.Editing
import Scoping.Proofs.ReportLines

namespace Scoping.Script

variable {options : Options} {stack : Stack} {line : Nat} {text : String}

theorem Command.stack_effect_of_error {command : Command} {fault : Fault}
    (h : command.run stack line = .error fault) : (command.effect stack line).stack = stack := by
  cases hstructural : fault.isStructural with
  | true => rw [effect_of_structural h hstructural]
  | false => rw [effect_of_semantic h hstructural]

/-- A line that fails on the stack or only looks at it. -/
inductive Observes (stack : Stack) (line : Nat) (text : String) : Prop
  | malformed {fault : LineFault} (read : Command.ofLine text line = .error fault)
  | refused {name type kind : String} {fault : Fault}
      (read : Command.ofLine text line = .ok (some (.declare name type kind)))
      (run : Command.runDeclare stack line name type kind = .error fault)
  | resolves {name : String} (read : Command.ofLine text line = .ok (some (.resolve name)))
  | dumps (read : Command.ofLine text line = .ok (some .dump))

theorem Observes.stack_lineEffect (observes : Observes stack line text) :
    (lineEffect stack line text).stack = stack := by
  cases observes with
  | malformed read => rw [lineEffect_of_error stack read]
  | refused read run =>
    rw [lineEffect_of_command stack read]
    apply Command.stack_effect_of_error
    rw [Command.run, run]
    rfl
  | @resolves name read =>
    rw [lineEffect_of_command stack read]
    cases hresolve : Command.runResolve stack line name with
    | ok printed =>
      have hrun : (Command.resolve name).run stack line = .ok (stack, printed) := by
        rw [Command.run, hresolve]
        rfl
      rw [Command.effect_of_ok hrun]
    | error fault =>
      apply Command.stack_effect_of_error
      rw [Command.run, hresolve]
      rfl
  | dumps read =>
    rw [lineEffect_of_command stack read]
    rfl

/-- The replay of the first lines of a script, before anything is said about its end. -/
def replayUpTo (options : Options) (lines : List String) : Session :=
  Session.runLines { stack := { limits := options.limits }, sink := {} } 1 lines

theorem replayUpTo_append (options : Options) (before after : List String) :
    replayUpTo options (before ++ after) =
      (replayUpTo options before).runLines (before.length + 1) after := by
  rw [replayUpTo, Session.runLines_append, Nat.add_comm 1]
  rfl

/-- A line of blanks takes up a number and nothing else. -/
theorem Session.runLines_cons_of_blank {blank : String}
    (h : ∀ c ∈ blank.toList, Text.isBlank c = true) (session : Session) (line : Nat)
    (later : List String) :
    session.runLines line (blank :: later) = session.runLines (line + 1) later := by
  by_cases hrunning : session.status = .running
  · have hline : session.runLine line blank = session := by
      rw [runLine, Command.ofLine_of_blank h]
    rw [runLines, hrunning]
    simp only [hline]
  · rw [runLines_of_ne_running hrunning, runLines_of_ne_running hrunning]

/-- Blanking a line leaves the lines in front of it to be run, and then those after it. -/
theorem replay_replaceLine_of_blank {source blank : String} {before after : List String}
    (lines : sourceLines source = before ++ text :: after)
    (spaces : ∀ c ∈ blank.toList, Text.isBlank c = true ∧ c ≠ '\n') (options : Options) :
    replay options (replaceLine source (before.length + 1) blank) =
      ((replayUpTo options before).runLines (before.length + 2) after).finish options := by
  have noFeed : '\n' ∉ blank.toList := fun h => (spaces '\n' h).2 rfl
  rw [replay]
  rcases sourceLines_replaceLine lines noFeed with ⟨kept, hkept, hmem⟩ | ⟨hafter, hlines⟩
  · have hblank : ∀ c ∈ kept.toList, Text.isBlank c = true := fun c hc =>
      (spaces c (hmem c hc)).1
    rw [hkept]
    show (replayUpTo options (before ++ kept :: after)).finish options = _
    rw [replayUpTo_append, Session.runLines_cons_of_blank hblank]
  · rw [hlines, hafter]
    rfl

theorem live_start (options : Options) : (replayUpTo options []).Live where
  running := rfl
  unlimited := rfl

/-- Before its end a replay has found nothing but faults of the lines it has run. -/
theorem exists_adds_replayUpTo (options : Options) (lines : List String) :
    ∃ text found, (replayUpTo options []).Adds (replayUpTo options lines) text found ∧
      (replayUpTo options lines).sink.capacity = none ∧
      (∀ diagnostic ∈ found, ∃ number, diagnostic.line = some number ∧ number ≤ lines.length) := by
  obtain ⟨text, found, hadds, hcapacity, hlines⟩ :=
    (live_start options).exists_adds_runLines 1 lines
  refine ⟨text, found, hadds, hcapacity, ?_⟩
  intro diagnostic hmem
  obtain ⟨number, hnumber, _, hlt⟩ := hlines diagnostic hmem
  exact ⟨number, hnumber, by omega⟩

section Concat

variable {before : List String}

theorem live_replayUpTo (running : (replayUpTo options before).status = .running) :
    (replayUpTo options before).Live := by
  obtain ⟨_, _, _, unlimited, _⟩ := exists_adds_replayUpTo options before
  exact ⟨running, unlimited⟩

theorem replayUpTo_concat (running : (replayUpTo options before).status = .running)
    (text : String) :
    replayUpTo options (before ++ [text]) =
      (replayUpTo options before).runLine (before.length + 1) text := by
  rw [replayUpTo_append, Session.runLines, running]
  rfl

theorem follows_replayUpTo (running : (replayUpTo options before).status = .running)
    (text : String) :
    (replayUpTo options before).Follows (replayUpTo options (before ++ [text]))
      (lineEffect (replayUpTo options before).stack (before.length + 1) text) := by
  rw [replayUpTo_concat running text]
  exact (live_replayUpTo running).follows_runLine (before.length + 1) text

theorem follows_of_running (goesOn : (replayUpTo options (before ++ [text])).status = .running) :
    (replayUpTo options before).Live ∧ (replayUpTo options (before ++ [text])).Live ∧
      (replayUpTo options before).Follows (replayUpTo options (before ++ [text]))
        (lineEffect (replayUpTo options before).stack (before.length + 1) text) := by
  have running : (replayUpTo options before).status = .running := by
    apply Decidable.byContradiction
    intro ended
    rw [replayUpTo_append, Session.runLines_of_ne_running ended] at goesOn
    exact ended goesOn
  exact ⟨live_replayUpTo running, live_replayUpTo goesOn, follows_replayUpTo running text⟩

end Concat

/-- A line that only observes leaves no trace. With a blank line in its place a replay ends as it
did before, and it has written and found the same except for what the line printed and for the
reports of the line, which are those that bear its number. -/
theorem replay_omits_line (options : Options) (source blank : String) (before after : List String)
    (text : String) (lines : sourceLines source = before ++ text :: after)
    (spaces : ∀ c ∈ blank.toList, Text.isBlank c = true ∧ c ≠ '\n')
    (goesOn : (replayUpTo options (before ++ [text])).status = .running)
    (observes : Observes (replayUpTo options before).stack (before.length + 1) text) :
    let reached := replayUpTo options before
    let passed := replayUpTo options (before ++ [text])
    let old := replay options source
    let new := replay options (replaceLine source (before.length + 1) blank)
    ∃ printed later found rest aborted,
      passed.output = reached.output ++ printed ∧
      passed.diagnostics = reached.diagnostics ++ found ∧
      old.output = reached.output ++ printed ++ later ∧
      new.output = reached.output ++ later ∧
      old.findings? = some ⟨reached.diagnostics ++ found ++ rest, aborted⟩ ∧
      new.findings? = some ⟨reached.diagnostics ++ rest, aborted⟩ ∧
      (∀ diagnostic ∈ found, diagnostic.line = some (before.length + 1)) ∧
      (∀ diagnostic ∈ reached.diagnostics ++ rest,
        diagnostic.line ≠ some (before.length + 1)) := by
  intro reached passed old new
  obtain ⟨live, passes, follows⟩ := follows_of_running goesOn
  obtain ⟨heading, earlier, hreached, _, hearlier⟩ := exists_adds_replayUpTo options before
  have hold : old = (passed.runLines (before.length + 2) after).finish options := by
    show (replayUpTo options (sourceLines source)).finish options = _
    rw [lines, List.append_cons, replayUpTo_append, List.length_append, List.length_singleton]
  have hnew : new = (reached.runLines (before.length + 2) after).finish options :=
    replay_replaceLine_of_blank lines spaces options
  -- With and without the line, what comes after it runs on the same stack.
  let effect := lineEffect reached.stack (before.length + 1) text
  let rest := transcribe options reached.stack (before.length + 2) after
  have hrest : reached.Yields new rest := by
    rw [hnew]
    exact live.yields_runLines options _ after
  have hrestPassed : passed.Yields old rest := by
    have hyields := passes.yields_runLines options (before.length + 2) after
    rw [follows.stack, observes.stack_lineEffect, ← hold] at hyields
    exact hyields
  have hpassed : (replayUpTo options []).Adds passed (heading ++ effect.text) _ :=
    hreached.trans follows.toAdds
  refine ⟨effect.text, rest.text, effect.diagnostics, rest.diagnostics, rest.aborted, ?_,
    follows.diagnostics, ?_, ?_, ?_, hrest.findings?, fun _ h => line_of_mem_lineEffect h, ?_⟩
  · rw [hpassed.output rfl, hreached.output rfl]
  · rw [(hpassed.trans hrestPassed.toAdds).output rfl, hreached.output rfl]
  · rw [(hreached.trans hrest.toAdds).output rfl, hreached.output rfl]
  · rw [hrestPassed.findings?, follows.diagnostics]
  · intro diagnostic hmem hpoints
    have hearly : reached.diagnostics = earlier := hreached.diagnostics
    rw [hearly] at hmem
    rcases List.mem_append.mp hmem with hmem | hmem
    · obtain ⟨number, hnumber, hle⟩ := hearlier diagnostic hmem
      have heq := Option.some.inj (hnumber.symm.trans hpoints)
      omega
    · have hle := le_of_mem_transcribe hmem hpoints
      omega

/-- With a duplicate declaration blanked, its report is missing and nothing else. -/
theorem replay_omits_refused_declaration :
    let source := "enter\ndeclare x int var\ndeclare x real var\nresolve x\nexit"
    let edited := replaceLine source 3 " "
    let report := (Fault.duplicate "x" ⟨0, 0⟩ 2 3 ⟨⟨0, 0⟩, ⟨0⟩⟩).report
    (replay {} source).findings? = some ⟨[report], false⟩ ∧
      (replay {} edited).findings? = some ⟨[], false⟩ ∧
      (replay {} edited).output = (replay {} source).output := by
  intro source edited report
  let before := ["enter", "declare x int var"]
  have lines : sourceLines source =
      before ++ "declare x real var" :: ["resolve x", "exit"] := by decide +kernel
  have spaces : ∀ c ∈ " ".toList, Text.isBlank c = true ∧ c ≠ '\n' := by
    intro c hc
    obtain rfl : c = ' ' := List.mem_singleton.mp hc
    decide
  have goesOn : (replayUpTo {} (before ++ ["declare x real var"])).status = .running := by
    decide +kernel
  have read : Command.ofLine "declare x real var" 3 =
      .ok (some (.declare "x" "real" "var")) := by rfl
  have run : Command.runDeclare (replayUpTo {} before).stack 3 "x" "real" "var" =
      .error (.duplicate "x" ⟨0, 0⟩ 2 3 ⟨⟨0, 0⟩, ⟨0⟩⟩) := by rfl
  obtain ⟨printed, later, found, rest, aborted, hprinted, hfound, hold, hnew, hfindings,
      hedited, -, -⟩ :=
    replay_omits_line {} source " " before ["resolve x", "exit"] "declare x real var" lines spaces
      goesOn (.refused read run)
  have hsource : (replay {} source).findings? = some ⟨[report], false⟩ := by decide +kernel
  have hreached : (replayUpTo {} before).diagnostics = [] ∧
      (replayUpTo {} before).output = "" := by decide +kernel
  have hpassed : (replayUpTo {} (before ++ ["declare x real var"])).diagnostics = [report] ∧
      (replayUpTo {} (before ++ ["declare x real var"])).output = "" := by decide +kernel
  rw [hpassed.1, hreached.1, List.nil_append] at hfound
  rw [hpassed.2, hreached.2, String.empty_append] at hprinted
  rw [hsource, hreached.1, ← hfound] at hfindings
  have hrest : rest = [] ∧ aborted = false := by simpa using hfindings
  rw [hreached.1, hrest.1, hrest.2] at hedited
  rw [← hprinted, String.append_empty] at hold
  exact ⟨hsource, hedited, hnew.trans hold.symm⟩

end Scoping.Script
