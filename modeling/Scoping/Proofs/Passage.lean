import Scoping.Proofs.Interpretation
import Scoping.Proofs.Observation

namespace Scoping.Script

theorem LineFault.isError_report (fault : LineFault) : fault.report.isError = true := by
  cases fault <;> rfl

theorem Frame.isError_of_refusal? {limits : Limits} {frame : Frame} {line : Nat}
    {name type kind : String} {diagnostic : Diagnostic}
    (h : frame.refusal? limits line name type kind = some diagnostic) :
    diagnostic.isError = true := by
  unfold refusal? at h
  split at h
  · rw [← Option.some.inj h]
    rfl
  · split at h
    · rw [← Option.some.inj h]
      rfl
    · split at h
      · rw [← Option.some.inj h]
        rfl
      · obtain ⟨first, _, hreport⟩ := Option.map_eq_some_iff.mp h
        rw [← hreport]
        rfl

namespace Frames

variable {limits : Limits} {frames next : Frames} {line : Nat} {text printed : String}
  {found : List Diagnostic}

/-- The frames after a line, what the line prints and what it finds. There are none if the line
needs a frame where there is none. -/
def read (limits : Limits) (frames : Frames) (line : Nat) (text : String) :
    Option (Frames × String × List Diagnostic) :=
  match Command.ofLine text line with
  | .error fault => some (frames, "", [malformedReport fault])
  | .ok none => some (frames, "", [])
  | .ok (some command) => frames.run limits line command

def readLines (limits : Limits) (frames : Frames) (line : Nat) : List String → Option Frames
  | [] => some frames
  | text :: later =>
    (frames.read limits line text).bind fun done => readLines limits done.1 (line + 1) later

theorem read_of_error {fault : LineFault} (h : Command.ofLine text line = .error fault) :
    frames.read limits line text = some (frames, "", [fault.report]) := by
  simp only [read, h, malformedReport_eq]

theorem read_of_none (h : Command.ofLine text line = .ok none) :
    frames.read limits line text = some (frames, "", []) := by
  simp only [read, h]

theorem read_of_command {command : Command} (h : Command.ofLine text line = .ok (some command)) :
    frames.read limits line text = frames.run limits line command := by
  simp only [read, h]

theorem isError_of_mem_run {command : Command} {diagnostic : Diagnostic}
    (h : frames.run limits line command = some (next, printed, found))
    (hmem : diagnostic ∈ found) : diagnostic.isError = true := by
  cases command with
  | enter | dump =>
    cases h
    simp at hmem
  | exit =>
    cases hinner : frames.inner with
    | nil => simp [run, hinner] at h
    | cons frame outer =>
      simp only [run, hinner] at h
      cases h
      simp at hmem
  | declare name type kind =>
    cases hinner : frames.inner with
    | nil => simp [run, hinner] at h
    | cons frame outer =>
      cases hrefusal : frame.refusal? limits line name type kind with
      | none =>
        simp only [run, hinner, hrefusal] at h
        cases h
        simp at hmem
      | some refusal =>
        simp only [run, hinner, hrefusal] at h
        cases h
        rw [List.mem_singleton.mp hmem]
        exact Frame.isError_of_refusal? hrefusal
  | resolve name =>
    cases hfound : resolveFrames name frames.inner with
    | some resolution =>
      simp only [run, hfound] at h
      cases h
      simp at hmem
    | none =>
      simp only [run, hfound] at h
      cases h
      rw [List.mem_singleton.mp hmem]
      rfl

theorem isError_of_mem_read {diagnostic : Diagnostic}
    (h : frames.read limits line text = some (next, printed, found))
    (hmem : diagnostic ∈ found) : diagnostic.isError = true := by
  cases hcommand : Command.ofLine text line with
  | error fault =>
    rw [read_of_error hcommand] at h
    cases h
    rw [List.mem_singleton.mp hmem]
    exact fault.isError_report
  | ok read =>
    cases read with
    | none =>
      rw [read_of_none hcommand] at h
      cases h
      simp at hmem
    | some command =>
      rw [read_of_command hcommand] at h
      exact isError_of_mem_run h hmem

theorem readLines_cons_of_some {later : List String}
    (h : frames.read limits line text = some (next, printed, found)) :
    frames.readLines limits line (text :: later) = next.readLines limits (line + 1) later := by
  rw [readLines, h]
  rfl

theorem readLines_cons_of_none {later : List String} (h : frames.read limits line text = none) :
    frames.readLines limits line (text :: later) = none := by
  rw [readLines, h]
  rfl

theorem readLines_append (before after : List String) :
    frames.readLines limits line (before ++ after) =
      (frames.readLines limits line before).bind fun next =>
        next.readLines limits (line + before.length) after := by
  induction before generalizing frames line with
  | nil => rfl
  | cons text before ih =>
    have hline : line + (before.length + 1) = line + 1 + before.length := by omega
    rw [List.cons_append, List.length_cons, hline]
    cases hread : frames.read limits line text with
    | none => rw [readLines_cons_of_none hread, readLines_cons_of_none hread, Option.bind_none]
    | some done =>
      obtain ⟨next, printed, found⟩ := done
      rw [readLines_cons_of_some hread, readLines_cons_of_some hread]
      exact ih

end Frames

theorem interpretLines_cons_of_some (options : Options) {frames next : Frames} {line : Nat}
    {text printed : String} {found : List Diagnostic} (later : List String)
    (h : frames.read options.limits line text = some (next, printed, found)) :
    interpretLines options frames line (text :: later) =
      (interpretLines options next (line + 1) later).prepend printed found := by
  rw [interpretLines]
  cases hcommand : Command.ofLine text line with
  | error fault =>
    rw [Frames.read_of_error hcommand] at h
    cases h
    simp only [malformedReport_eq]
  | ok read =>
    cases read with
    | none =>
      rw [Frames.read_of_none hcommand] at h
      cases h
      exact (Transcript.prepend_nothing _).symm
    | some command =>
      rw [Frames.read_of_command hcommand] at h
      simp only [h]

theorem interpretLines_cons_of_none (options : Options) {frames : Frames} {line : Nat}
    {text : String} (later : List String) (h : frames.read options.limits line text = none) :
    interpretLines options frames line (text :: later) =
      { diagnostics := [Fault.noOpenScope.report.atLine line], aborted := true } := by
  rw [interpretLines]
  cases hcommand : Command.ofLine text line with
  | error fault =>
    rw [Frames.read_of_error hcommand] at h
    simp at h
  | ok read =>
    cases read with
    | none =>
      rw [Frames.read_of_none hcommand] at h
      simp at h
    | some command =>
      rw [Frames.read_of_command hcommand] at h
      simp only [h, noFrameReport_eq]

/-- A line on a stack and on the frames of the stack: both go on alike, or neither finds a scope to
work on. -/
inductive LineInStep (stack : Stack) (line : Nat) (text : String) : Prop
  | goes (after : Stack) (printed : String) (found : List Diagnostic)
      (effect : lineEffect stack line text =
        { stack := after, text := printed, diagnostics := found })
      (frames : (Frames.ofStack stack).read stack.limits line text =
        some (Frames.ofStack after, printed, found))
      (limits : after.limits = stack.limits) (replayed : after.Replayed (line + 1))
  | aborts
      (effect : lineEffect stack line text =
        { stack, diagnostics := [Fault.noOpenScope.report.atLine line], aborts := true })
      (frames : (Frames.ofStack stack).read stack.limits line text = none)

theorem lineInStep {stack : Stack} {line : Nat} (replayed : stack.Replayed line)
    (room : line ≤ AddressCounter.limit.toNat) (text : String) : LineInStep stack line text := by
  cases hcommand : Command.ofLine text line with
  | error fault =>
    exact .goes stack "" [fault.report] (lineEffect_of_error stack hcommand)
      (Frames.read_of_error hcommand) rfl replayed.idle
  | ok read =>
    cases read with
    | none =>
      exact .goes stack "" [] (lineEffect_of_none stack hcommand) (Frames.read_of_none hcommand)
        rfl replayed.idle
    | some command =>
      have hline := lineEffect_of_command stack hcommand
      have hread : (Frames.ofStack stack).read stack.limits line text = _ :=
        Frames.read_of_command hcommand
      have hstep := inStep replayed room command fun operand h =>
        Command.operand_ne_empty hcommand h
      cases hstep with
      | goes after printed run frames hlimits hreplayed =>
        exact .goes after printed [] (hline.trans (Command.effect_of_ok run)) (hread.trans frames)
          hlimits hreplayed
      | refuses fault run semantic frames =>
        exact .goes stack "" [fault.report] (hline.trans (Command.effect_of_semantic run semantic))
          (hread.trans frames) rfl replayed.idle
      | aborts run frames =>
        exact .aborts (hline.trans (Command.effect_of_structural run rfl)) (hread.trans frames)

namespace Session

variable {options : Options} {session : Session} {line : Nat} {frames : Frames}

theorem runLines_of_aborted (aborted : session.status = .aborted) (line : Nat)
    (lines : List String) : session.runLines line lines = session := by
  apply runLines_of_ne_running
  rw [aborted]
  decide

namespace Underway

/-- A line that the interpreter goes on after leaves a replay under way, on the same frames. -/
theorem runLine_of_some {text printed : String} {found : List Diagnostic}
    (underway : session.Underway options line) (room : line ≤ AddressCounter.limit.toNat)
    (h : (Frames.ofStack session.stack).read options.limits line text =
      some (frames, printed, found)) :
    (session.runLine line text).Underway options (line + 1) ∧
      Frames.ofStack (session.runLine line text).stack = frames ∧
      session.Adds (session.runLine line text) printed found := by
  have follows := underway.toLive.follows_runLine line text
  have hstep := lineInStep underway.replayed room text
  rw [← underway.limits] at h
  cases hstep with
  | goes after shown told effect read hlimits replayed =>
    rw [read] at h
    cases h
    rw [effect] at follows
    refine ⟨⟨underway.toLive.of_follows follows rfl, ?_, ?_⟩, ?_, follows.toAdds⟩
    · rw [follows.stack, hlimits, underway.limits]
    · rw [follows.stack]
      exact replayed
    · rw [follows.stack]
  | aborts effect read =>
    rw [read] at h
    simp at h

/-- A line that the interpreter ends at ends a replay, with one last report. -/
theorem runLine_of_none {text : String} (underway : session.Underway options line)
    (room : line ≤ AddressCounter.limit.toNat)
    (h : (Frames.ofStack session.stack).read options.limits line text = none) :
    (session.runLine line text).status = .aborted ∧
      session.Adds (session.runLine line text) "" [Fault.noOpenScope.report.atLine line] := by
  have follows := underway.toLive.follows_runLine line text
  have hstep := lineInStep underway.replayed room text
  rw [← underway.limits] at h
  cases hstep with
  | goes after shown told effect read hlimits replayed =>
    rw [read] at h
    simp at h
  | aborts effect read =>
    rw [effect] at follows
    exact ⟨follows.status_of_aborts rfl, follows.toAdds⟩

theorem isError_of_mem_runLines {lines : List String} (underway : session.Underway options line)
    (room : line + lines.length ≤ AddressCounter.limit.toNat)
    (errors : ∀ diagnostic ∈ session.diagnostics, diagnostic.isError = true) :
    ∀ diagnostic ∈ (session.runLines line lines).diagnostics, diagnostic.isError = true := by
  induction lines generalizing session line with
  | nil => exact errors
  | cons text later ih =>
    rw [List.length_cons] at room
    rw [runLines, underway.running]
    cases hread : (Frames.ofStack session.stack).read options.limits line text with
    | none =>
      obtain ⟨haborted, hadds⟩ := underway.runLine_of_none (by omega) hread
      simp only [runLines_of_aborted haborted]
      intro diagnostic hmem
      rw [hadds.diagnostics, List.mem_append, List.mem_singleton] at hmem
      rcases hmem with hmem | rfl
      · exact errors diagnostic hmem
      · rfl
    | some done =>
      obtain ⟨next, printed, found⟩ := done
      obtain ⟨hunderway, _, hadds⟩ := underway.runLine_of_some (by omega) hread
      apply ih hunderway (by omega)
      intro diagnostic hmem
      rw [hadds.diagnostics, List.mem_append] at hmem
      rcases hmem with hmem | hmem
      · exact errors diagnostic hmem
      · exact Frames.isError_of_mem_read hread hmem

theorem runLines_of_some {lines : List String} (underway : session.Underway options line)
    (room : line + lines.length ≤ AddressCounter.limit.toNat)
    (h : (Frames.ofStack session.stack).readLines options.limits line lines = some frames) :
    (session.runLines line lines).Underway options (line + lines.length) ∧
      Frames.ofStack (session.runLines line lines).stack = frames := by
  induction lines generalizing session line with
  | nil => exact ⟨underway, Option.some.inj h⟩
  | cons text later ih =>
    rw [List.length_cons] at room ⊢
    have hline : line + (later.length + 1) = line + 1 + later.length := by omega
    rw [runLines, underway.running, hline]
    cases hread : (Frames.ofStack session.stack).read options.limits line text with
    | none =>
      rw [Frames.readLines_cons_of_none hread] at h
      simp at h
    | some done =>
      obtain ⟨next, printed, found⟩ := done
      obtain ⟨hunderway, hframes, _⟩ := underway.runLine_of_some (by omega) hread
      rw [Frames.readLines_cons_of_some hread, ← hframes] at h
      exact ih hunderway (by omega) h

theorem runLines_of_none {lines : List String} (underway : session.Underway options line)
    (room : line + lines.length ≤ AddressCounter.limit.toNat)
    (h : (Frames.ofStack session.stack).readLines options.limits line lines = none) :
    (session.runLines line lines).status = .aborted := by
  induction lines generalizing session line with
  | nil => simp [Frames.readLines] at h
  | cons text later ih =>
    rw [List.length_cons] at room
    rw [runLines, underway.running]
    cases hread : (Frames.ofStack session.stack).read options.limits line text with
    | none =>
      obtain ⟨haborted, _⟩ := underway.runLine_of_none (by omega) hread
      simp only [runLines_of_aborted haborted, haborted]
    | some done =>
      obtain ⟨next, printed, found⟩ := done
      obtain ⟨hunderway, hframes, _⟩ := underway.runLine_of_some (by omega) hread
      rw [Frames.readLines_cons_of_some hread, ← hframes] at h
      exact ih hunderway (by omega) h

end Underway

end Session

section Prefixes

variable {options : Options} {lines : List String}

theorem underway_replayUpTo {frames : Frames}
    (room : lines.length < AddressCounter.limit.toNat)
    (h : Frames.readLines options.limits {} 1 lines = some frames) :
    (replayUpTo options lines).Underway options (lines.length + 1) ∧
      Frames.ofStack (replayUpTo options lines).stack = frames := by
  rw [Nat.add_comm]
  exact (Session.Underway.start options).runLines_of_some (by omega) h

theorem aborted_replayUpTo (room : lines.length < AddressCounter.limit.toNat)
    (h : Frames.readLines options.limits {} 1 lines = none) :
    (replayUpTo options lines).status = .aborted :=
  (Session.Underway.start options).runLines_of_none (by omega) h

theorem aborted_replayUpTo_iff (room : lines.length < AddressCounter.limit.toNat) :
    (replayUpTo options lines).status = .aborted ↔
      Frames.readLines options.limits {} 1 lines = none := by
  constructor
  · intro aborted
    cases hread : Frames.readLines options.limits {} 1 lines with
    | none => rfl
    | some frames =>
      obtain ⟨underway, _⟩ := underway_replayUpTo room hread
      rw [underway.running] at aborted
      simp at aborted
  · exact aborted_replayUpTo room

theorem output_of_adds {final : Session} {text : String} {found : List Diagnostic}
    (h : (replayUpTo options lines).Adds final text found) :
    final.output = (replayUpTo options lines).output ++ text := by
  obtain ⟨written, earlier, hreached, _⟩ := exists_adds_replayUpTo options lines
  rw [(hreached.trans h).output rfl, hreached.output rfl]

theorem isError_of_mem_replayUpTo (room : lines.length < AddressCounter.limit.toNat) :
    ∀ diagnostic ∈ (replayUpTo options lines).diagnostics, diagnostic.isError = true :=
  (Session.Underway.start options).isError_of_mem_runLines (by omega) (by simp)

theorem replay_of_aborted {source : String} {count : Nat}
    (aborted : (replayUpTo options ((sourceLines source).take count)).status = .aborted) :
    replay options source = replayUpTo options ((sourceLines source).take count) := by
  have hover : (replayUpTo options ((sourceLines source).take count)).status ≠ .running := by
    rw [aborted]
    decide
  have hlines : replayUpTo options (sourceLines source) =
      replayUpTo options ((sourceLines source).take count) := by
    conv_lhs => rw [← List.take_append_drop count (sourceLines source)]
    rw [replayUpTo_append, Session.runLines_of_aborted aborted]
  show (replayUpTo options (sourceLines source)).finish options = _
  rw [hlines, Session.finish_of_ne_running hover]

/-- A script shorter than `2 ^ 63` bytes has fewer lines than there are addresses. -/
theorem length_sourceLines_lt {source : String} (short : source.utf8ByteSize < 2 ^ 63) :
    (sourceLines source).length < AddressCounter.limit.toNat := by
  have hlines := length_sourceLines_le source
  have hlimit := AddressCounter.toNat_limit_succ
  simp only [UInt64.size] at hlimit
  omega

theorem yields_replay (options : Options) {source : String} (short : source.utf8ByteSize < 2 ^ 63) :
    (replayUpTo options []).Yields (replay options source) (interpret options source) := by
  have room := length_sourceLines_lt short
  exact (Session.Underway.start options).yields_runLines (by omega)

end Prefixes

end Scoping.Script
