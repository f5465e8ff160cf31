import Scoping.Proofs.Simulation
import Scoping.Proofs.Transcription

namespace Scoping.Script

variable {options : Options} {line : Nat}

theorem finish_ofStack {stack : Stack} (replayed : stack.Replayed line) (options : Options) :
    (Frames.ofStack stack).finish options = closingTranscript options stack := by
  have hlength : (Frames.ofStack stack).inner.length = stack.depth := by
    rw [Frames.ofStack, List.length_map, List.length_reverse, Stack.depth]
  have hempty : (Frames.ofStack stack).inner.isEmpty = true ↔ stack.depth = 0 := by
    rw [List.isEmpty_iff_length_eq_zero, hlength]
  rw [Frames.finish, closingTranscript, dump_ofStack replayed, hlength]
  simp only [hempty]

/-- The interpreter tells of the lines that are left what their effects add up to. -/
theorem interpretLines_ofStack {stack : Stack} {lines : List String}
    (replayed : stack.Replayed line) (limits : stack.limits = options.limits)
    (room : line + lines.length ≤ AddressCounter.limit.toNat) :
    interpretLines options (Frames.ofStack stack) line lines =
      transcribe options stack line lines := by
  induction lines generalizing stack line with
  | nil => exact finish_ofStack replayed options
  | cons text later ih =>
    rw [List.length_cons] at room
    rw [interpretLines]
    cases hcommand : Command.ofLine text line with
    | error fault =>
      have heffect := lineEffect_of_error stack hcommand
      have hlater := ih replayed.idle limits (by omega)
      rw [transcribe_cons_of_goesOn (by rw [heffect]), heffect]
      simp only [hlater, malformedReport_eq]
    | ok read =>
      cases read with
      | none =>
        have heffect := lineEffect_of_none stack hcommand
        have hlater := ih replayed.idle limits (by omega)
        rw [transcribe_cons_of_goesOn (by rw [heffect]), heffect]
        simp only [hlater, Transcript.prepend_nothing]
      | some command =>
        have hline := lineEffect_of_command stack hcommand
        -- The one place where the stack may change: the frames keep in step with it.
        have hstep := inStep replayed (by omega) command fun operand h =>
          Command.operand_ne_empty hcommand h
        rw [← limits]
        cases hstep with
        | goes after printed run frames hlimits hreplayed =>
          have heffect := hline.trans (Command.effect_of_ok run)
          have hlater := ih hreplayed (hlimits.trans limits) (by omega)
          rw [transcribe_cons_of_goesOn (by rw [heffect]), heffect]
          simp only [frames, hlater]
        | refuses fault run semantic frames =>
          have heffect := hline.trans (Command.effect_of_semantic run semantic)
          have hlater := ih replayed.idle limits (by omega)
          rw [transcribe_cons_of_goesOn (by rw [heffect]), heffect]
          simp only [frames, hlater]
        | aborts run frames =>
          have heffect := hline.trans (Command.effect_of_structural run rfl)
          rw [transcribe_cons_of_aborts (by rw [heffect]), heffect]
          simp only [frames, noFrameReport_eq]

namespace Session

variable {session : Session}

/-- A replay in front of a line, into a sink without a limit. -/
structure Underway (options : Options) (line : Nat) (session : Session) : Prop extends
    session.Live where
  limits : session.stack.limits = options.limits
  replayed : session.stack.Replayed line

namespace Underway

theorem start (options : Options) :
    Underway options 1 { stack := { limits := options.limits }, sink := {} } where
  running := rfl
  unlimited := rfl
  limits := rfl
  replayed := .start options.limits

theorem yields_runLines {lines : List String} (underway : session.Underway options line)
    (room : line + lines.length ≤ AddressCounter.limit.toNat) :
    session.Yields ((session.runLines line lines).finish options)
      (interpretLines options (Frames.ofStack session.stack) line lines) := by
  rw [interpretLines_ofStack underway.replayed underway.limits room]
  exact underway.toLive.yields_runLines options line lines

end Underway

end Session

/-- Replay and interpreter agree on every script shorter than `2 ^ 63` bytes, for all limits and
with or without the dump at the end: what is written to a sink that takes everything is the text of
the interpreter, and the diagnostics and the early end are the interpreter's. -/
theorem replay_refines_interpret (options : Options) (source : String)
    (short : source.utf8ByteSize < 2 ^ 63) :
    (replay options source).sink.written = (interpret options source).text.toUTF8 ∧
      (replay options source).output = (interpret options source).text ∧
      (replay options source).findings? =
        some ⟨(interpret options source).diagnostics, (interpret options source).aborted⟩ := by
  -- A line for each byte and one more: line numbers stay below the last address.
  have hlines := length_sourceLines_le source
  have hlimit := AddressCounter.toNat_limit_succ
  have room : 1 + (sourceLines source).length ≤ AddressCounter.limit.toNat := by
    simp only [UInt64.size] at hlimit
    omega
  have yields := (Session.Underway.start options).yields_runLines room
  have hwritten : (replay options source).sink.written =
      (interpret options source).text.toUTF8 := by
    rw [replay, yields.written]
    exact ByteArray.empty_append
  have hfindings : (replay options source).findings? =
      some ⟨(interpret options source).diagnostics, (interpret options source).aborted⟩ := by
    have hdiagnostics : (replay options source).diagnostics =
        (interpret options source).diagnostics := yields.diagnostics
    have hstatus : (replay options source).status =
        if (interpret options source).aborted then .aborted else .running := yields.status
    rw [Session.findings?, hstatus, hdiagnostics]
    cases (interpret options source).aborted <;> rfl
  refine ⟨hwritten, ?_, hfindings⟩
  rw [Session.output, hwritten]
  apply Text.decodeCut_of_fromUTF8
  rw [String.fromUTF8?, String.toUTF8_eq_toByteArray, dif_pos (String.isValidUTF8 _)]
  rfl

/-- A script that declares a name twice, has a line that is no command, prints a resolution and a
table, misses another name and closes one scope too many. -/
theorem replay_refines_interpret_until_abort :
    let source := "enter\ndeclare x int var\ndeclare x char var\nhalt 1\nresolve x\nresolve y\n"
      ++ "dump\nexit\nexit\nenter"
    source.utf8ByteSize < 2 ^ 63 ∧
      (replay {} source).output =
        "x -> scope #0 (depth 0): index 0, address 0, int variable declared at line 2\n"
          ++ "scope #0 (depth 0)\n"
          ++ "  index  name              type       address  line   kind\n"
          ++ "  0      x                 int        0        2      variable\n" ∧
      (replay {} source).findings? =
        some ⟨[(Fault.duplicate "x" ⟨0, 0⟩ 2 3 ⟨⟨0, 0⟩, ⟨0⟩⟩).report,
          (LineFault.unknownCommand "halt" 4).report, (Fault.unresolved "y" 6).report,
          Fault.noOpenScope.report.atLine 9], true⟩ := by
  intro source
  have short : source.utf8ByteSize < 2 ^ 63 := by decide +kernel
  obtain ⟨_, houtput, hfindings⟩ := replay_refines_interpret {} source short
  rw [houtput, hfindings]
  refine ⟨short, ?_⟩
  decide +kernel

end Scoping.Script
