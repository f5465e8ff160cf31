import Scoping.Proofs.Frames
import Scoping.Proofs.Session

namespace Scoping.Script

structure LineEffect where
  stack : Stack
  text : String := ""
  diagnostics : List Diagnostic := []
  aborts : Bool := false

/-- A command that is refused has no effect but the report of its fault, which for a structural
fault is the last one. -/
def Command.effect (stack : Stack) (line : Nat) (command : Command) : LineEffect :=
  match command.run stack line with
  | .ok (after, text) => { stack := after, text }
  | .error fault =>
    if fault.isStructural then
      { stack, diagnostics := [fault.report.atLine line], aborts := true }
    else { stack, diagnostics := [fault.report] }

def lineEffect (stack : Stack) (line : Nat) (text : String) : LineEffect :=
  match Command.ofLine text line with
  | .error fault => { stack, diagnostics := [fault.report] }
  | .ok none => { stack }
  | .ok (some command) => command.effect stack line

def closingTranscript (options : Options) (stack : Stack) : Transcript where
  text := if options.dumpAtEnd then stack.dump else ""
  diagnostics :=
    if stack.depth = 0 then []
    else [.warning s!"{stack.depth} scope(s) left open at the end of the script"]

def transcribe (options : Options) (stack : Stack) (line : Nat) : List String → Transcript
  | [] => closingTranscript options stack
  | text :: later =>
    let effect := lineEffect stack line text
    if effect.aborts then
      { text := effect.text, diagnostics := effect.diagnostics, aborted := true }
    else
      (transcribe options effect.stack (line + 1) later).prepend effect.text effect.diagnostics

@[simp] theorem Transcript.prepend_nothing (transcript : Transcript) :
    transcript.prepend "" [] = transcript := by
  rw [Transcript.prepend, String.empty_append, List.nil_append]

section Effects

variable {options : Options} {stack : Stack} {line : Nat} {text : String} {later : List String}

theorem Command.effect_of_ok {command : Command} {after : Stack}
    (h : command.run stack line = .ok (after, text)) :
    command.effect stack line = { stack := after, text } := by
  simp only [effect, h]

theorem Command.effect_of_structural {command : Command} {fault : Fault}
    (h : command.run stack line = .error fault) (structural : fault.isStructural = true) :
    command.effect stack line =
      { stack, diagnostics := [fault.report.atLine line], aborts := true } := by
  simp only [effect, h, structural, if_true]

theorem Command.effect_of_semantic {command : Command} {fault : Fault}
    (h : command.run stack line = .error fault) (semantic : fault.isStructural = false) :
    command.effect stack line = { stack, diagnostics := [fault.report] } := by
  simp only [effect, h, semantic, Bool.false_eq_true, if_false]

theorem lineEffect_of_error (stack : Stack) {fault : LineFault}
    (h : Command.ofLine text line = .error fault) :
    lineEffect stack line text = { stack, diagnostics := [fault.report] } := by
  simp only [lineEffect, h]

theorem lineEffect_of_none (stack : Stack) (h : Command.ofLine text line = .ok none) :
    lineEffect stack line text = { stack } := by
  simp only [lineEffect, h]

theorem lineEffect_of_command (stack : Stack) {command : Command}
    (h : Command.ofLine text line = .ok (some command)) :
    lineEffect stack line text = command.effect stack line := by
  simp only [lineEffect, h]

theorem transcribe_cons_of_goesOn (h : (lineEffect stack line text).aborts = false) :
    transcribe options stack line (text :: later) =
      (transcribe options (lineEffect stack line text).stack (line + 1) later).prepend
        (lineEffect stack line text).text (lineEffect stack line text).diagnostics := by
  simp only [transcribe, h, Bool.false_eq_true, if_false]

theorem transcribe_cons_of_aborts (h : (lineEffect stack line text).aborts = true) :
    transcribe options stack line (text :: later) =
      { text := (lineEffect stack line text).text,
        diagnostics := (lineEffect stack line text).diagnostics, aborted := true } := by
  simp only [transcribe, h, if_true]

end Effects

namespace Session

variable {options : Options} {session middle final : Session} {line : Nat}

/-- From one session to a later one, a text was written and diagnostics were collected. -/
structure Adds (session final : Session) (text : String) (found : List Diagnostic) : Prop where
  written : final.sink.written = session.sink.written ++ text.toUTF8
  diagnostics : final.diagnostics = session.diagnostics ++ found

/-- A replay adds what a transcript says and ends as the transcript says. -/
structure Yields (session final : Session) (transcript : Transcript) : Prop extends
    Adds session final transcript.text transcript.diagnostics where
  status : final.status = if transcript.aborted then .aborted else .running

/-- From one session to the next, a line took effect. -/
structure Follows (session final : Session) (effect : LineEffect) : Prop extends
    Adds session final effect.text effect.diagnostics where
  stack : final.stack = effect.stack
  capacity : final.sink.capacity = session.sink.capacity
  status : final.status = if effect.aborts then .aborted else session.status

/-- A replay that is not over, into a sink without a limit. -/
structure Live (session : Session) : Prop where
  running : session.status = .running
  unlimited : session.sink.capacity = none

theorem Follows.status_of_aborts {effect : LineEffect} (follows : session.Follows final effect)
    (aborts : effect.aborts = true) : final.status = .aborted := by
  rw [follows.status, aborts, if_pos rfl]

theorem Follows.ne_running {effect : LineEffect} (follows : session.Follows final effect)
    (aborts : effect.aborts = true) : final.status ≠ .running := by
  rw [follows.status_of_aborts aborts]
  decide

section Adds

theorem Adds.trans {text later : String} {found more : List Diagnostic}
    (first : session.Adds middle text found) (second : middle.Adds final later more) :
    session.Adds final (text ++ later) (found ++ more) where
  written := by
    rw [second.written, first.written, append_toUTF8]
  diagnostics := by
    rw [second.diagnostics, first.diagnostics, List.append_assoc]

theorem Adds.yields_prepend {transcript : Transcript} {text : String} {found : List Diagnostic}
    (first : session.Adds middle text found) (later : middle.Yields final transcript) :
    session.Yields final (transcript.prepend text found) where
  toAdds := first.trans later.toAdds
  status := later.status

theorem adds_nothing (written : final.sink.written = session.sink.written)
    (diagnostics : final.diagnostics = session.diagnostics) : session.Adds final "" [] where
  written := by rw [written, append_toUTF8_empty]
  diagnostics := by rw [diagnostics, List.append_nil]

theorem adds_report (session : Session) (diagnostic : Diagnostic) :
    session.Adds (session.report diagnostic) "" [diagnostic] := by
  have hnothing : session.Adds session "" [] := adds_nothing rfl rfl
  exact ⟨hnothing.written, rfl⟩

theorem write_of_unlimited (h : session.sink.capacity = none) (text : String) :
    session.write text = { session with
      sink := { session.sink with written := session.sink.written ++ text.toUTF8 } } := by
  simp only [write, send, Sink.write_of_unlimited h]

theorem print_of_unlimited (h : session.sink.capacity = none) (text : String) :
    session.print text = { session with
      sink := { session.sink with written := session.sink.written ++ text.toUTF8 } } := by
  rw [print]
  split
  · next hempty => rw [hempty, append_toUTF8_empty]
  · exact write_of_unlimited h text

theorem adds_write (h : session.sink.capacity = none) (text : String) :
    session.Adds (session.write text) text [] where
  written := by rw [write_of_unlimited h]
  diagnostics := by rw [write_of_unlimited h, List.append_nil]

/-- What was written to a sink that was empty at first can be read back. -/
theorem Adds.output {text : String} {found : List Diagnostic}
    (h : session.Adds final text found) (fresh : session.sink.written = .empty) :
    final.output = text := by
  have hwritten : final.sink.written = text.toUTF8 := by
    rw [h.written, fresh, ByteArray.empty_append]
  rw [Session.output, hwritten]
  apply Text.decodeCut_of_fromUTF8
  rw [String.fromUTF8?, String.toUTF8_eq_toByteArray, dif_pos text.isValidUTF8]
  rfl

theorem Yields.findings? {transcript : Transcript} (yields : session.Yields final transcript) :
    final.findings? =
      some ⟨session.diagnostics ++ transcript.diagnostics, transcript.aborted⟩ := by
  rw [Session.findings?, yields.status, yields.diagnostics]
  cases transcript.aborted <;> rfl

end Adds

section Lines

theorem runLines_of_ne_running (h : session.status ≠ .running) (lines : List String) :
    session.runLines line lines = session := by
  cases lines with
  | nil => rfl
  | cons text later =>
    rw [runLines]
    split
    · next hrunning => exact absurd hrunning h
    · rfl

theorem finish_of_ne_running (h : session.status ≠ .running) :
    session.finish options = session := by
  rw [finish]
  split
  · next hrunning => exact absurd hrunning h
  · rfl

theorem runLines_append (session : Session) (line : Nat) (before after : List String) :
    session.runLines line (before ++ after) =
      (session.runLines line before).runLines (line + before.length) after := by
  induction before generalizing session line with
  | nil => rfl
  | cons text before ih =>
    by_cases hrunning : session.status = .running
    · have hline : line + (before.length + 1) = line + 1 + before.length := by omega
      rw [List.cons_append, runLines, runLines, hrunning, List.length_cons, hline]
      exact ih _ _
    · rw [runLines_of_ne_running hrunning, runLines_of_ne_running hrunning,
        runLines_of_ne_running hrunning]

theorem stack_dumpAtEnd (session : Session) (options : Options) :
    (session.dumpAtEnd options).stack = session.stack := by
  rw [dumpAtEnd]
  split
  · exact session.stack_send _
  · rfl

theorem stack_finish (session : Session) (options : Options) :
    (session.finish options).stack = session.stack := by
  rw [finish]
  split
  · rw [warnOpenScopes]
    split <;> exact session.stack_dumpAtEnd options
  · rfl

/-- The stack after a line is the same whether or not the sink has room for what the line prints. -/
theorem stack_runLine (session : Session) (line : Nat) (text : String) :
    (session.runLine line text).stack = (lineEffect session.stack line text).stack := by
  rw [runLine, lineEffect]
  cases Command.ofLine text line with
  | error fault => rfl
  | ok read =>
    cases read with
    | none => rfl
    | some command =>
      dsimp only
      rw [runCommand_eq, Command.effect]
      cases command.run session.stack line with
      | ok done => exact stack_print _ _
      | error fault =>
        dsimp only [settle]
        rw [stack_refuse, stack_record]
        split <;> rfl

theorem adds_warnOpenScopes (session : Session) (options : Options) :
    session.Adds session.warnOpenScopes ""
      (closingTranscript options session.stack).diagnostics := by
  rw [warnOpenScopes, closingTranscript]
  split
  · exact adds_nothing rfl rfl
  · exact adds_report session _

theorem status_warnOpenScopes (session : Session) :
    session.warnOpenScopes.status = session.status := by
  rw [warnOpenScopes]
  split <;> rfl

namespace Live

theorem follows_runCommand (live : session.Live) (line : Nat) (command : Command) :
    session.Follows (session.runCommand line command) (command.effect session.stack line) := by
  rw [runCommand_eq, Command.effect]
  cases command.run session.stack line with
  | ok done =>
    obtain ⟨after, text⟩ := done
    rw [settle, print_of_unlimited (by exact live.unlimited)]
    exact ⟨⟨rfl, (List.append_nil _).symm⟩, rfl, rfl, rfl⟩
  | error fault =>
    have hnothing : session.Adds session "" [] := adds_nothing rfl rfl
    cases hstructural : fault.isStructural with
    | true =>
      rw [settle, refuse_of_structural _ _ hstructural]
      simp only [hstructural, if_true]
      exact ⟨⟨hnothing.written, rfl⟩, rfl, rfl, rfl⟩
    | false =>
      rw [settle, refuse_of_semantic _ _ hstructural]
      simp only [hstructural, Bool.false_eq_true, if_false]
      exact ⟨⟨hnothing.written, rfl⟩, rfl, rfl, rfl⟩

theorem follows_runLine (live : session.Live) (line : Nat) (text : String) :
    session.Follows (session.runLine line text) (lineEffect session.stack line text) := by
  rw [runLine, lineEffect]
  cases Command.ofLine text line with
  | error fault => exact ⟨adds_report session fault.report, rfl, rfl, rfl⟩
  | ok read =>
    cases read with
    | none => exact ⟨adds_nothing rfl rfl, rfl, rfl, rfl⟩
    | some command => exact live.follows_runCommand line command

theorem of_follows {effect : LineEffect} (live : session.Live)
    (follows : session.Follows final effect) (goesOn : effect.aborts = false) : final.Live where
  running := by
    rw [follows.status, goesOn]
    exact live.running
  unlimited := by rw [follows.capacity, live.unlimited]

theorem adds_dumpAtEnd (live : session.Live) (options : Options) :
    session.Adds (session.dumpAtEnd options) (closingTranscript options session.stack).text [] := by
  rw [dumpAtEnd, closingTranscript]
  split
  · rw [send_writeDump]
    exact adds_write live.unlimited session.stack.dump
  · exact adds_nothing rfl rfl

theorem status_dumpAtEnd (live : session.Live) (options : Options) :
    (session.dumpAtEnd options).status = .running := by
  rw [dumpAtEnd]
  split
  · rw [send_writeDump, write_of_unlimited live.unlimited]
    exact live.running
  · exact live.running

/-- At the end the dump is written, if it is asked for, and open scopes are reported. -/
theorem yields_finish (live : session.Live) (options : Options) :
    session.Yields (session.finish options) (closingTranscript options session.stack) := by
  have hfinish : session.finish options = (session.dumpAtEnd options).warnOpenScopes := by
    rw [finish, live.running]
  have hadds := (live.adds_dumpAtEnd options).trans (adds_warnOpenScopes _ options)
  rw [stack_dumpAtEnd, String.append_empty, List.nil_append] at hadds
  rw [hfinish]
  refine ⟨hadds, ?_⟩
  rw [status_warnOpenScopes, live.status_dumpAtEnd options]
  rfl

theorem yields_runLines (live : session.Live) (options : Options) (line : Nat)
    (lines : List String) :
    session.Yields ((session.runLines line lines).finish options)
      (transcribe options session.stack line lines) := by
  induction lines generalizing session line with
  | nil => exact live.yields_finish options
  | cons text later ih =>
    have follows := live.follows_runLine line text
    rw [runLines, live.running]
    cases haborts : (lineEffect session.stack line text).aborts with
    | true =>
      -- Neither the later lines nor the end of the script add anything.
      have hover := follows.ne_running haborts
      rw [runLines_of_ne_running hover, finish_of_ne_running hover,
        transcribe_cons_of_aborts haborts]
      exact ⟨follows.toAdds, follows.status_of_aborts haborts⟩
    | false =>
      have hlater := ih (live.of_follows follows haborts) (line + 1)
      rw [follows.stack] at hlater
      rw [transcribe_cons_of_goesOn haborts]
      exact follows.toAdds.yields_prepend hlater

end Live

end Lines

end Session

end Scoping.Script
