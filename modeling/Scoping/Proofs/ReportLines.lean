import Scoping.Proofs.Refusals
import Scoping.Proofs.Transcription

namespace Scoping

/-- A fault that points to the line if it is one of the declared program. -/
def Fault.PointsTo (fault : Fault) (line : Nat) : Prop :=
  fault.isStructural = false → fault.report.line = some line

theorem Fault.pointsTo_of_structural {fault : Fault} (h : fault.isStructural = true) (line : Nat) :
    fault.PointsTo line := by
  intro semantic
  rw [h] at semantic
  simp at semantic

/-- Only what was refused before a result is mapped is refused after it. -/
theorem eq_error_of_map_eq_error {α β : Type} {result : Except Fault α} {f : α → β} {fault : Fault}
    (h : result.map f = .error fault) : result = .error fault := by
  cases result with
  | error found => rw [Except.error.inj h]
  | ok value => simp [Except.map] at h

theorem Limits.pointsTo_of_tagsFault? {limits : Limits} {fault : Fault} {name : String} {line : Nat}
    {tags : List String} (h : limits.tagsFault? name line tags = some fault) :
    fault.PointsTo line := by
  obtain ⟨tag, _, _, rfl⟩ := exists_tag_of_tagsFault? h
  exact fun _ => rfl

namespace Stack

variable {stack : Stack} {handle : Handle} {fault : Fault}

theorem pointsTo_of_declare {declaration : Declaration}
    (h : stack.declare handle declaration = .error fault) : fault.PointsTo declaration.line := by
  cases refusal_of_declare h with
  | closed | line | exhausted | missing => exact Fault.pointsTo_of_structural rfl _
  | name | tag | duplicate => exact fun _ => rfl

end Stack

namespace Script

namespace Command

variable {stack : Stack} {line : Nat} {fault : Fault}

theorem pointsTo_of_runDeclare {name type kind : String}
    (h : runDeclare stack line name type kind = .error fault) : fault.PointsTo line := by
  unfold runDeclare at h
  split at h
  · next hinnermost =>
    rw [← Except.error.inj h]
    exact Fault.pointsTo_of_structural (Stack.isStructural_of_innermost hinnermost) line
  · split at h
    · next htags =>
      rw [← Except.error.inj h]
      exact Limits.pointsTo_of_tagsFault? htags
    · exact Stack.pointsTo_of_declare (eq_error_of_map_eq_error h)

theorem eq_unresolved_of_runResolve {name : String}
    (h : runResolve stack line name = .error fault) : fault = .unresolved name line := by
  unfold runResolve at h
  split at h
  · exact (Except.error.inj h).symm
  · split at h <;> simp at h

theorem pointsTo_of_runResolve {name : String} (h : runResolve stack line name = .error fault) :
    fault.PointsTo line := by
  rw [eq_unresolved_of_runResolve h]
  exact fun _ => rfl

/-- Whatever a command is refused for points to the line of the command. -/
theorem pointsTo_of_run {command : Command} (h : command.run stack line = .error fault) :
    fault.PointsTo line := by
  cases command with
  | enter => simp [run] at h
  | exit =>
    have hexit := isStructural_of_runExit (eq_error_of_map_eq_error h)
    exact Fault.pointsTo_of_structural hexit line
  | declare name type kind => exact pointsTo_of_runDeclare (eq_error_of_map_eq_error h)
  | resolve name => exact pointsTo_of_runResolve (eq_error_of_map_eq_error h)
  | dump => simp [run] at h

end Command

variable {options : Options} {stack : Stack} {line : Nat} {diagnostic : Diagnostic}

theorem LineFault.line_report_of_ofLine {text : String} {fault : LineFault}
    (h : Command.ofLine text line = .error fault) : fault.report.line = some line := by
  unfold Command.ofLine at h
  split at h
  · simp at h
  · split at h
    · rw [← Except.error.inj h]
      rfl
    · split at h
      · rw [← Except.error.inj h]
        rfl
      · simp at h

theorem Command.line_of_mem_effect {command : Command}
    (h : diagnostic ∈ (command.effect stack line).diagnostics) : diagnostic.line = some line := by
  cases hrun : command.run stack line with
  | ok done => simp [Command.effect_of_ok hrun] at h
  | error fault =>
    cases hstructural : fault.isStructural with
    | true =>
      rw [Command.effect_of_structural hrun hstructural, List.mem_singleton] at h
      rw [h]
      rfl
    | false =>
      rw [Command.effect_of_semantic hrun hstructural, List.mem_singleton] at h
      rw [h]
      exact Command.pointsTo_of_run hrun hstructural

theorem line_of_mem_lineEffect {text : String}
    (h : diagnostic ∈ (lineEffect stack line text).diagnostics) :
    diagnostic.line = some line := by
  cases hcommand : Command.ofLine text line with
  | error fault =>
    rw [lineEffect_of_error stack hcommand, List.mem_singleton] at h
    rw [h]
    exact LineFault.line_report_of_ofLine hcommand
  | ok read =>
    cases read with
    | none => simp [lineEffect_of_none stack hcommand] at h
    | some command =>
      rw [lineEffect_of_command stack hcommand] at h
      exact Command.line_of_mem_effect h

theorem line_of_mem_closingTranscript
    (h : diagnostic ∈ (closingTranscript options stack).diagnostics) : diagnostic.line = none := by
  dsimp only [closingTranscript] at h
  split at h
  · simp at h
  · rw [List.mem_singleton.mp h]
    rfl

/-- Apart from the warning at the end, which has no line, what is found from a line on points to
that line or to a later one. -/
theorem le_of_mem_transcribe {lines : List String} {number : Nat}
    (h : diagnostic ∈ (transcribe options stack line lines).diagnostics)
    (points : diagnostic.line = some number) : line ≤ number := by
  induction lines generalizing stack line with
  | nil =>
    rw [line_of_mem_closingTranscript h] at points
    simp at points
  | cons text later ih =>
    have hfirst : diagnostic ∈ (lineEffect stack line text).diagnostics → line ≤ number := by
      intro hmem
      rw [line_of_mem_lineEffect hmem] at points
      exact Nat.le_of_eq (Option.some.inj points)
    cases haborts : (lineEffect stack line text).aborts with
    | true =>
      rw [transcribe_cons_of_aborts haborts] at h
      exact hfirst h
    | false =>
      rw [transcribe_cons_of_goesOn haborts, Transcript.prepend, List.mem_append] at h
      rcases h with hmem | hlater
      · exact hfirst hmem
      · exact Nat.le_of_succ_le (ih hlater)

/-- Lines add a text and diagnostics that point to these lines, and the sink stays without a
limit. -/
theorem Session.Live.exists_adds_runLines {session : Session} (live : session.Live) (line : Nat)
    (lines : List String) :
    ∃ text found, session.Adds (session.runLines line lines) text found ∧
      (session.runLines line lines).sink.capacity = none ∧
      (∀ diagnostic ∈ found, ∃ number,
        diagnostic.line = some number ∧ line ≤ number ∧ number < line + lines.length) := by
  induction lines generalizing session line with
  | nil => exact ⟨"", [], adds_nothing rfl rfl, live.unlimited, by simp⟩
  | cons text later ih =>
    have follows := live.follows_runLine line text
    have hfirst : ∀ diagnostic ∈ (lineEffect session.stack line text).diagnostics, ∃ number,
        diagnostic.line = some number ∧ line ≤ number ∧
          number < line + (text :: later).length := by
      intro diagnostic hmem
      refine ⟨line, line_of_mem_lineEffect hmem, Nat.le_refl line, ?_⟩
      rw [List.length_cons]
      omega
    rw [runLines, live.running]
    cases haborts : (lineEffect session.stack line text).aborts with
    | true =>
      simp only [runLines_of_ne_running (follows.ne_running haborts)]
      exact ⟨_, _, follows.toAdds, follows.capacity.trans live.unlimited, hfirst⟩
    | false =>
      obtain ⟨more, found, hadds, hcapacity, hlater⟩ :=
        ih (live.of_follows follows haborts) (line + 1)
      refine ⟨_, _, follows.toAdds.trans hadds, hcapacity, ?_⟩
      intro diagnostic hmem
      rcases List.mem_append.mp hmem with hmem | hmem
      · exact hfirst diagnostic hmem
      · obtain ⟨number, hpoints, hle, hlt⟩ := hlater diagnostic hmem
        refine ⟨number, hpoints, Nat.le_of_succ_le hle, ?_⟩
        rw [List.length_cons]
        omega

end Script

end Scoping
