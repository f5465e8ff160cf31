import Mathlib.Data.Finset.Card
import Mathlib.Data.Finset.SDiff
import Scoping.Proofs.Passage

namespace Scoping

/-- Whether the lengths of a declaration as it is written are within limits. -/
def Limits.Fits (limits : Limits) (name type kind : String) : Prop :=
  type.utf8ByteSize ≤ limits.maxTag ∧ kind.utf8ByteSize ≤ limits.maxTag ∧
    name.utf8ByteSize ≤ limits.maxName

instance (limits : Limits) (name type kind : String) : Decidable (limits.Fits name type kind) :=
  inferInstanceAs (Decidable (_ ∧ _ ∧ _))

structure Limits.Within (limits relaxed : Limits) : Prop where
  names : limits.maxName ≤ relaxed.maxName
  tags : limits.maxTag ≤ relaxed.maxTag

theorem Limits.Within.fits {limits relaxed : Limits} {name type kind : String}
    (within : limits.Within relaxed) (h : limits.Fits name type kind) :
    relaxed.Fits name type kind :=
  ⟨h.1.trans within.tags, h.2.1.trans within.tags, h.2.2.trans within.names⟩

namespace Script

variable {limits relaxed : Limits} {line : Nat}

namespace Frame

def names (frame : Frame) : Finset String := (frame.declarations.map Declaration.name).toFinset

/-- A frame after a declaration, and the report if it is refused. -/
def declare (limits : Limits) (frame : Frame) (line : Nat) (name type kind : String) :
    Frame × List Diagnostic :=
  match frame.refusal? limits line name type kind with
  | some diagnostic => (frame, [diagnostic])
  | none => (frame.add { name, type := .ofWord type, kind := .ofWord kind, line }, [])

variable {frame strict lax : Frame} {name type kind : String}

theorem find?_eq_none_iff : frame.find? name = none ↔ name ∉ frame.names := by
  have hnames : frame.declarations.map Declaration.name =
      frame.declarations.zipIdx.map fun entry => entry.1.name := by
    conv_lhs => rw [← List.zipIdx_map_fst 0 frame.declarations, List.map_map]
    rfl
  rw [find?, List.find?_eq_none, names, List.mem_toFinset, hnames, List.mem_map]
  simp

theorem names_add (declaration : Declaration) :
    (frame.add declaration).names = insert declaration.name frame.names := by
  ext other
  simp [names, add]

theorem refusal?_eq_none_iff (line : Nat) :
    frame.refusal? limits line name type kind = none ↔
      limits.Fits name type kind ∧ name ∉ frame.names := by
  rw [← find?_eq_none_iff]
  unfold refusal? Limits.Fits
  split
  · simp; omega
  · split
    · simp; omega
    · split
      · simp; omega
      · simp; omega

theorem declare_of_accepted (fits : limits.Fits name type kind) (new : name ∉ frame.names) :
    frame.declare limits line name type kind =
      (frame.add { name, type := .ofWord type, kind := .ofWord kind, line }, []) := by
  have haccepted := (refusal?_eq_none_iff line).mpr ⟨fits, new⟩
  rw [declare, haccepted]

theorem exists_declare_of_refused (line : Nat)
    (h : ¬ (limits.Fits name type kind ∧ name ∉ frame.names)) :
    ∃ diagnostic, frame.declare limits line name type kind = (frame, [diagnostic]) := by
  rw [← refusal?_eq_none_iff line, ← ne_eq, Option.ne_none_iff_exists'] at h
  obtain ⟨diagnostic, hrefusal⟩ := h
  exact ⟨diagnostic, by rw [declare, hrefusal]⟩

/-- What fits is declared afterwards, even if it was declared before. -/
theorem names_declare :
    (frame.declare limits line name type kind).1.names =
      if limits.Fits name type kind then insert name frame.names else frame.names := by
  by_cases hfits : limits.Fits name type kind
  · rw [if_pos hfits]
    by_cases hmem : name ∈ frame.names
    · obtain ⟨diagnostic, hdeclare⟩ := exists_declare_of_refused line
        fun h : limits.Fits name type kind ∧ name ∉ frame.names => h.2 hmem
      rw [hdeclare, Finset.insert_eq_of_mem hmem]
    · rw [declare_of_accepted hfits hmem, names_add]
  · rw [if_neg hfits]
    obtain ⟨diagnostic, hdeclare⟩ := exists_declare_of_refused line
      fun h : limits.Fits name type kind ∧ name ∉ frame.names => hfits h.1
    rw [hdeclare]

theorem length_declare :
    (frame.declare limits line name type kind).2.length =
      if limits.Fits name type kind ∧ name ∉ frame.names then 0 else 1 := by
  split
  · next h => rw [declare_of_accepted h.1 h.2, List.length_nil]
  · next h =>
    obtain ⟨diagnostic, hdeclare⟩ := exists_declare_of_refused line h
    rw [hdeclare, List.length_singleton]

theorem declare_subset_declare (within : limits.Within relaxed)
    (names : strict.names ⊆ lax.names) :
    (strict.declare limits line name type kind).1.names ⊆
      (lax.declare relaxed line name type kind).1.names := by
  rw [names_declare, names_declare]
  by_cases hstrict : limits.Fits name type kind
  · rw [if_pos hstrict, if_pos (within.fits hstrict)]
    exact Finset.insert_subset_insert name names
  · rw [if_neg hstrict]
    split
    · exact names.trans (Finset.subset_insert name lax.names)
    · exact names

/-- A report under the wider limits alone uses up a name that was declared under them alone, and
with each such name there is a report under the narrower limits. -/
theorem declare_balance (within : limits.Within relaxed) (names : strict.names ⊆ lax.names)
    (line : Nat) (name type kind : String) :
    (lax.declare relaxed line name type kind).2.length +
        ((lax.declare relaxed line name type kind).1.names \
          (strict.declare limits line name type kind).1.names).card =
      (strict.declare limits line name type kind).2.length + (lax.names \ strict.names).card := by
  rw [names_declare, names_declare, length_declare, length_declare]
  by_cases hstrict : limits.Fits name type kind
  · have hlax := within.fits hstrict
    simp only [hstrict, hlax, true_and, if_true]
    rw [Finset.insert_sdiff_insert, Finset.sdiff_insert]
    by_cases hmem : name ∈ lax.names \ strict.names
    · -- A duplicate under the wider limits only.
      have hcard := Finset.card_erase_add_one hmem
      rw [Finset.mem_sdiff] at hmem
      rw [if_neg (not_not.mpr hmem.1), if_pos hmem.2]
      omega
    · have hsame : name ∉ lax.names ↔ name ∉ strict.names := by
        rw [Finset.mem_sdiff] at hmem
        have hsubset : name ∈ strict.names → name ∈ lax.names := fun h => names h
        tauto
      rw [Finset.erase_eq_of_notMem hmem]
      simp only [hsame]
  · simp only [hstrict, false_and, if_false]
    by_cases hlax : relaxed.Fits name type kind
    · simp only [hlax, true_and, if_true]
      by_cases hmem : name ∈ lax.names
      · rw [if_neg (not_not.mpr hmem), Finset.insert_eq_of_mem hmem]
      · -- Refused under the narrower limits, and a new name under the wider ones.
        have hnew : name ∉ lax.names \ strict.names := fun h => hmem (Finset.mem_sdiff.mp h).1
        rw [if_pos hmem, Finset.insert_sdiff_of_notMem _ fun h => hmem (names h),
          Finset.card_insert_of_notMem hnew]
        omega
    · simp only [hlax, false_and, if_false]

end Frame

/-- As many frames, which declare what the others do, each in its place, and in all so many names
more. -/
inductive Widens : List Frame → List Frame → Nat → Prop
  | nil : Widens [] [] 0
  | cons {strict lax : Frame} {strictOuter laxOuter : List Frame} {extra : Nat}
      (names : strict.names ⊆ lax.names) (outer : Widens strictOuter laxOuter extra) :
      Widens (strict :: strictOuter) (lax :: laxOuter)
        ((lax.names \ strict.names).card + extra)

section Widens

variable {strict lax : List Frame} {extra : Nat}

theorem Widens.isEmpty_eq (widens : Widens strict lax extra) : lax.isEmpty = strict.isEmpty := by
  cases widens <;> rfl

theorem resolveFrames_eq_none_iff {name : String} {frames : List Frame} :
    resolveFrames name frames = none ↔ ∀ frame ∈ frames, name ∉ frame.names := by
  induction frames with
  | nil => simp [resolveFrames]
  | cons frame outer ih =>
    rw [List.forall_mem_cons, ← ih, ← Frame.find?_eq_none_iff, resolveFrames]
    cases frame.find? name <;> simp

theorem Widens.exists_resolution (widens : Widens strict lax extra) {name : String}
    {found : Resolution} (h : resolveFrames name strict = some found) :
    ∃ other, resolveFrames name lax = some other := by
  rw [← Option.ne_none_iff_exists', ne_eq, resolveFrames_eq_none_iff]
  have hstrict : ¬ ∀ frame ∈ strict, name ∉ frame.names := by
    rw [← resolveFrames_eq_none_iff, h]
    simp
  clear h
  induction widens with
  | nil => simp at hstrict
  | cons names outer ih =>
    rw [List.forall_mem_cons] at hstrict ⊢
    rintro ⟨hhead, hlax⟩
    exact hstrict ⟨fun h => hhead (names h), by_contra fun h => ih h hlax⟩

end Widens

/-- What a line comes to under the wider limits: the frames still declare what the others do, and
the reports and the names more are together no more than the reports under the narrower limits and
the names more of before. -/
def Eases (extra : Nat) (strict lax : Frames × String × List Diagnostic) : Prop :=
  ∃ left, Widens strict.1.inner lax.1.inner left ∧
    lax.2.2.length + left ≤ strict.2.2.length + extra

namespace Frames

variable {frames strict lax next : Frames} {extra : Nat} {text printed : String}

theorem run_declare (frames : Frames) (name type kind : String) :
    frames.run limits line (.declare name type kind) =
      match frames.inner with
      | [] => none
      | frame :: outer =>
        let declared := frame.declare limits line name type kind
        some ({ frames with inner := declared.1 :: outer }, "", declared.2) := by
  cases hinner : frames.inner with
  | nil => simp only [run, hinner]
  | cons frame outer =>
    simp only [run, hinner, Frame.declare]
    cases frame.refusal? limits line name type kind with
    | none => rfl
    | some diagnostic => rw [← hinner]

theorem eases_run (within : limits.Within relaxed) (widens : Widens strict.inner lax.inner extra)
    (command : Command) :
    Option.Rel (Eases extra) (strict.run limits line command) (lax.run relaxed line command) := by
  cases command with
  | enter => exact .some ⟨0 + extra, .cons (Finset.Subset.refl _) widens, by simp⟩
  | exit =>
    simp only [run]
    generalize strict.inner = strictInner, lax.inner = laxInner at widens
    cases widens with
    | nil => exact .none
    | cons names outer => exact .some ⟨_, outer, by simp⟩
  | declare name type kind =>
    rw [run_declare, run_declare]
    generalize strict.inner = strictInner, lax.inner = laxInner at widens
    cases widens with
    | nil => exact .none
    | cons names outer =>
      have hbalance := Frame.declare_balance within names line name type kind
      exact .some ⟨_, .cons (Frame.declare_subset_declare within names) outer, by
        dsimp only
        omega⟩
  | resolve name =>
    simp only [run]
    cases hstrict : resolveFrames name strict.inner with
    | some found =>
      obtain ⟨other, hlax⟩ := widens.exists_resolution hstrict
      rw [hlax]
      exact .some ⟨extra, widens, Nat.le_refl _⟩
    | none =>
      cases resolveFrames name lax.inner with
      | some found => exact .some ⟨extra, widens, by simp⟩
      | none => exact .some ⟨extra, widens, Nat.le_refl _⟩
  | dump => exact .some ⟨extra, widens, Nat.le_refl _⟩

theorem eases_read (within : limits.Within relaxed) (widens : Widens strict.inner lax.inner extra)
    (line : Nat) (text : String) :
    Option.Rel (Eases extra) (strict.read limits line text) (lax.read relaxed line text) := by
  cases hcommand : Command.ofLine text line with
  | error fault =>
    rw [read_of_error hcommand, read_of_error hcommand]
    exact .some ⟨extra, widens, Nat.le_refl _⟩
  | ok read =>
    cases read with
    | none =>
      rw [read_of_none hcommand, read_of_none hcommand]
      exact .some ⟨extra, widens, Nat.le_refl _⟩
    | some command =>
      rw [read_of_command hcommand, read_of_command hcommand]
      exact eases_run within widens command

/-- After the same lines there are frames under the wider limits that declare more, or the lines
have ended the script under both limits. -/
theorem widens_readLines (within : limits.Within relaxed)
    (widens : Widens strict.inner lax.inner extra) (line : Nat) (lines : List String) :
    Option.Rel (fun next eased => ∃ left, Widens next.inner eased.inner left)
      (strict.readLines limits line lines) (lax.readLines relaxed line lines) := by
  induction lines generalizing strict lax extra line with
  | nil => exact .some ⟨extra, widens⟩
  | cons text later ih =>
    have heases := eases_read within widens line text
    rw [readLines, readLines]
    generalize strict.read limits line text = first, lax.read relaxed line text = second at heases
    cases heases with
    | none => exact .none
    | some eases =>
      obtain ⟨left, hwidens, _⟩ := eases
      exact ih hwidens (line + 1)

theorem run_of_nothing_found (within : limits.Within relaxed) {command : Command}
    (h : frames.run limits line command = some (next, printed, [])) :
    frames.run relaxed line command = some (next, printed, []) := by
  cases command with
  | declare name type kind =>
    cases hinner : frames.inner with
    | nil => simp [run, hinner] at h
    | cons frame outer =>
      cases hrefusal : frame.refusal? limits line name type kind with
      | some diagnostic => simp [run, hinner, hrefusal] at h
      | none =>
        obtain ⟨hfits, hnew⟩ := (Frame.refusal?_eq_none_iff line).mp hrefusal
        have hrelaxed := (Frame.refusal?_eq_none_iff line).mpr ⟨within.fits hfits, hnew⟩
        rw [← h]
        simp only [run, hinner, hrefusal, hrelaxed]
  | enter | exit | resolve | dump => exact h

theorem read_of_nothing_found (within : limits.Within relaxed)
    (h : frames.read limits line text = some (next, printed, [])) :
    frames.read relaxed line text = some (next, printed, []) := by
  cases hcommand : Command.ofLine text line with
  | error fault =>
    rw [read_of_error hcommand] at h
    simp at h
  | ok read =>
    cases read with
    | none =>
      rw [read_of_none hcommand] at h ⊢
      exact h
    | some command =>
      rw [read_of_command hcommand] at h ⊢
      exact run_of_nothing_found within h

end Frames

/-- A script that ends early under the one limits does so under the others, with the same last
report, and it has no more reports, but for what the frames declare more. -/
structure Transcript.Eases (extra : Nat) (strict lax : Transcript) : Prop where
  aborted : lax.aborted = strict.aborted
  last : strict.aborted = true → ∃ report,
    strict.diagnostics.getLast? = some report ∧ lax.diagnostics.getLast? = some report
  fewer : lax.diagnostics.length ≤ strict.diagnostics.length + extra

section Transcripts

variable {dumpAtEnd : Bool} {strict lax : Frames} {extra : Nat}

theorem eases_interpretLines (within : limits.Within relaxed)
    (widens : Widens strict.inner lax.inner extra) (line : Nat) (lines : List String) :
    (interpretLines ⟨limits, dumpAtEnd⟩ strict line lines).Eases extra
      (interpretLines ⟨relaxed, dumpAtEnd⟩ lax line lines) := by
  -- The names more that a line leaves behind are what the later lines may cost.
  induction lines generalizing strict lax extra line with
  | nil =>
    refine ⟨rfl, by simp [interpretLines, Frames.finish], ?_⟩
    simp only [interpretLines, Frames.finish, widens.isEmpty_eq]
    split <;> simp
  | cons text later ih =>
    have heases := Frames.eases_read within widens line text
    generalize hstrict : strict.read limits line text = first,
      hlax : lax.read relaxed line text = second at heases
    cases heases with
    | none =>
      rw [interpretLines_cons_of_none ⟨limits, dumpAtEnd⟩ later hstrict,
        interpretLines_cons_of_none ⟨relaxed, dumpAtEnd⟩ later hlax]
      exact ⟨rfl, fun _ => ⟨_, rfl, rfl⟩, Nat.le_add_right _ _⟩
    | @some first second eases =>
      obtain ⟨next, printed, found⟩ := first
      obtain ⟨eased, shown, kept⟩ := second
      obtain ⟨left, hwidens, hfewer⟩ := eases
      have hlater := ih hwidens (line + 1)
      rw [interpretLines_cons_of_some ⟨limits, dumpAtEnd⟩ later hstrict,
        interpretLines_cons_of_some ⟨relaxed, dumpAtEnd⟩ later hlax]
      refine ⟨hlater.aborted, fun haborted => ?_, ?_⟩
      · obtain ⟨report, hreport, hlast⟩ := hlater.last haborted
        exact ⟨report, by simp [Transcript.prepend, hreport], by simp [Transcript.prepend, hlast]⟩
      · have hrest := hlater.fewer
        simp only [Transcript.prepend, List.length_append]
        dsimp only at hfewer hrest
        omega

/-- Where nothing is found that is an error, wider limits change nothing. -/
theorem interpretLines_of_no_errors (within : limits.Within relaxed) {frames : Frames}
    {lines : List String} {line : Nat}
    (h : ∀ diagnostic ∈ (interpretLines ⟨limits, dumpAtEnd⟩ frames line lines).diagnostics,
      diagnostic.isError = false) :
    interpretLines ⟨relaxed, dumpAtEnd⟩ frames line lines =
      interpretLines ⟨limits, dumpAtEnd⟩ frames line lines := by
  induction lines generalizing frames line with
  | nil => rfl
  | cons text later ih =>
    cases hread : frames.read limits line text with
    | none =>
      rw [interpretLines_cons_of_none ⟨limits, dumpAtEnd⟩ later hread] at h
      have herror : (Fault.noOpenScope.report.atLine line).isError = false :=
        h _ List.mem_cons_self
      cases herror
    | some done =>
      obtain ⟨next, printed, found⟩ := done
      rw [interpretLines_cons_of_some ⟨limits, dumpAtEnd⟩ later hread] at h
      cases found with
      | cons diagnostic found =>
        -- Whatever a line finds is an error.
        have herror := Frames.isError_of_mem_read hread List.mem_cons_self
        rw [h diagnostic List.mem_cons_self] at herror
        simp at herror
      | nil =>
        have hrelaxed := Frames.read_of_nothing_found within hread
        rw [interpretLines_cons_of_some ⟨relaxed, dumpAtEnd⟩ later hrelaxed,
          interpretLines_cons_of_some ⟨limits, dumpAtEnd⟩ later hread, ih h]

end Transcripts

section Replays

variable {options : Options} {before : List String} {text name : String}

theorem Resolution.text_ne_empty (found : Resolution) (name : String) : found.text name ≠ "" := by
  intro h
  have hlength := congrArg String.length h
  simp [Resolution.text] at hlength

/-- A replay that has run some lines prints, at a line that follows, what a name resolves to. -/
def PrintsResolution (options : Options) (before : List String) (text name : String) : Prop :=
  ∃ found : Resolution, (replayUpTo options (before ++ [text])).output =
    (replayUpTo options before).output ++ found.text name

theorem output_of_aborted (aborted : (replayUpTo options before).status = .aborted) :
    (replayUpTo options (before ++ [text])).output = (replayUpTo options before).output := by
  rw [replayUpTo_append, Session.runLines_of_aborted aborted]

theorem output_of_resolve {frames : Frames} (room : before.length < AddressCounter.limit.toNat)
    (resolves : Command.ofLine text (before.length + 1) = .ok (some (.resolve name)))
    (read : Frames.readLines options.limits {} 1 before = some frames) :
    (replayUpTo options (before ++ [text])).output =
      (replayUpTo options before).output ++
        (resolveFrames name frames.inner).elim "" fun found => found.text name := by
  obtain ⟨underway, hframes⟩ := underway_replayUpTo room read
  have hline : ∃ found, frames.read options.limits (before.length + 1) text = some (frames,
      (resolveFrames name frames.inner).elim "" (fun found => found.text name), found) := by
    rw [Frames.read_of_command resolves, Frames.run]
    cases resolveFrames name frames.inner <;> exact ⟨_, rfl⟩
  obtain ⟨found, hline⟩ := hline
  rw [← hframes] at hline
  obtain ⟨-, -, hadds⟩ := underway.runLine_of_some (by omega) hline
  rw [replayUpTo_concat underway.running, output_of_adds hadds, hframes]

/-- A `resolve` line prints a resolution if the script has not ended and the name is found. -/
theorem printsResolution_iff (room : before.length < AddressCounter.limit.toNat)
    (resolves : Command.ofLine text (before.length + 1) = .ok (some (.resolve name))) :
    PrintsResolution options before text name ↔
      ∃ frames found, Frames.readLines options.limits {} 1 before = some frames ∧
        resolveFrames name frames.inner = some found := by
  constructor
  · rintro ⟨found, hfound⟩
    cases hread : Frames.readLines options.limits {} 1 before with
    | none =>
      rw [output_of_aborted (aborted_replayUpTo room hread)] at hfound
      exact absurd (String.append_eq_left_iff.mp hfound.symm) (found.text_ne_empty name)
    | some frames =>
      rw [output_of_resolve room resolves hread, String.append_right_inj] at hfound
      cases hresolve : resolveFrames name frames.inner with
      | none =>
        rw [hresolve, Option.elim_none] at hfound
        exact absurd hfound.symm (found.text_ne_empty name)
      | some resolution => exact ⟨frames, resolution, rfl, hresolve⟩
  · rintro ⟨frames, found, hread, hresolve⟩
    refine ⟨found, ?_⟩
    rw [output_of_resolve room resolves hread, hresolve, Option.elim_some]

section Limits

variable {dumpAtEnd : Bool}

theorem aborted_iff_of_within (within : limits.Within relaxed) {lines : List String}
    (room : lines.length < AddressCounter.limit.toNat) :
    (replayUpTo ⟨relaxed, dumpAtEnd⟩ lines).status = .aborted ↔
      (replayUpTo ⟨limits, dumpAtEnd⟩ lines).status = .aborted := by
  have hstart : Widens ({} : Frames).inner ({} : Frames).inner 0 := .nil
  have hreached := Frames.widens_readLines within hstart 1 lines
  rw [aborted_replayUpTo_iff room, aborted_replayUpTo_iff room]
  generalize Frames.readLines limits {} 1 lines = narrow,
    Frames.readLines relaxed {} 1 lines = wide at hreached ⊢
  cases hreached <;> simp

theorem PrintsResolution.of_within (within : limits.Within relaxed)
    (room : before.length < AddressCounter.limit.toNat)
    (resolves : Command.ofLine text (before.length + 1) = .ok (some (.resolve name)))
    (prints : PrintsResolution ⟨limits, dumpAtEnd⟩ before text name) :
    PrintsResolution ⟨relaxed, dumpAtEnd⟩ before text name := by
  rw [printsResolution_iff room resolves] at prints ⊢
  obtain ⟨frames, found, hframes, hfound⟩ := prints
  have hstart : Widens ({} : Frames).inner ({} : Frames).inner 0 := .nil
  have hreached := Frames.widens_readLines within hstart 1 before
  rw [hframes] at hreached
  generalize Frames.readLines relaxed {} 1 before = wide at hreached ⊢
  cases hreached with
  | some widens =>
    obtain ⟨left, hwidens⟩ := widens
    obtain ⟨other, hother⟩ := hwidens.exists_resolution hfound
    exact ⟨_, other, rfl, hother⟩

end Limits

/-- No script fares worse under wider limits, as long as it is shorter than `2 ^ 63` bytes, which a
string in memory is. It ends early if it did before, at the same line and with the same report. What
was resolved is still resolved, no more diagnostics are found, and where none of them was an error
nothing changes. -/
theorem relaxed_limits_only_help (limits relaxed : Limits) (dumpAtEnd : Bool) (source : String)
    (short : source.utf8ByteSize < 2 ^ 63) (names : limits.maxName ≤ relaxed.maxName)
    (tags : limits.maxTag ≤ relaxed.maxTag) :
    let strict : Options := ⟨limits, dumpAtEnd⟩
    let lax : Options := ⟨relaxed, dumpAtEnd⟩
    let lines := sourceLines source
    ∃ found kept aborted,
      (replay strict source).findings? = some ⟨found, aborted⟩ ∧
      (replay lax source).findings? = some ⟨kept, aborted⟩ ∧
      (∀ count, (replayUpTo lax (lines.take count)).status = .aborted ↔
        (replayUpTo strict (lines.take count)).status = .aborted) ∧
      (aborted = true → kept.getLast? = found.getLast?) ∧
      (∀ before text after name, lines = before ++ text :: after →
        Command.ofLine text (before.length + 1) = .ok (some (.resolve name)) →
          PrintsResolution strict before text name → PrintsResolution lax before text name) ∧
      kept.length ≤ found.length ∧
      ((∀ diagnostic ∈ found, diagnostic.isError = false) →
        kept = found ∧ (replay lax source).output = (replay strict source).output) := by
  intro strict lax lines
  have within : limits.Within relaxed := ⟨names, tags⟩
  have room : lines.length < AddressCounter.limit.toNat := length_sourceLines_lt short
  have hstart : Widens ({} : Frames).inner ({} : Frames).inner 0 := .nil
  have hstrict := yields_replay strict short
  have hlax := yields_replay lax short
  have heases : (interpret strict source).Eases 0 (interpret lax source) :=
    eases_interpretLines within hstart 1 lines
  refine ⟨(interpret strict source).diagnostics, (interpret lax source).diagnostics,
    (interpret strict source).aborted, hstrict.findings?, ?_, ?_, ?_, ?_, heases.fewer, ?_⟩
  · rw [← heases.aborted]
    exact hlax.findings?
  · intro count
    apply aborted_iff_of_within within
    rw [List.length_take]
    omega
  · intro aborted
    obtain ⟨report, hreport, hlast⟩ := heases.last aborted
    rw [hreport, hlast]
  · intro before text after name hlines resolves prints
    have hlength : before.length < lines.length := by
      rw [hlines, List.length_append, List.length_cons]
      omega
    exact prints.of_within within (by omega) resolves
  · intro noErrors
    have hsame : interpret lax source = interpret strict source :=
      interpretLines_of_no_errors within noErrors
    refine ⟨by rw [hsame], ?_⟩
    rw [hlax.toAdds.output rfl, hstrict.toAdds.output rfl, hsame]

/-- The wider limits let the first declaration of a name pass, and the second is refused instead. -/
theorem relaxed_limits_exchange_reports :
    let source := "enter\ndeclare x int function\ndeclare x int var\nresolve x\nexit\nexit"
    let strict : Options := ⟨⟨9, 3⟩, false⟩
    let lax : Options := ⟨⟨9, 8⟩, false⟩
    let before := ["enter", "declare x int function", "declare x int var"]
    let closed := Fault.noOpenScope.report.atLine 6
    (replay strict source).findings? =
        some ⟨[(Fault.tagTooLong "x" "function" 2 3).report, closed], true⟩ ∧
      (∃ kept, (replay lax source).findings? = some ⟨kept, true⟩ ∧
        kept.getLast? = some closed ∧ kept.length ≤ 2) ∧
      PrintsResolution lax before "resolve x" "x" := by
  intro source strict lax before closed
  obtain ⟨found, kept, aborted, hstrict, hlax, -, hlast, hresolutions, hfewer, -⟩ :=
    relaxed_limits_only_help ⟨9, 3⟩ ⟨9, 8⟩ false source (by decide +kernel) (by decide) (by decide)
  have hfindings : (replay strict source).findings? =
      some ⟨[(Fault.tagTooLong "x" "function" 2 3).report, closed], true⟩ := by decide +kernel
  have hprints : PrintsResolution strict before "resolve x" "x" :=
    ⟨⟨0, 0, 0, ⟨"x", .int, .var, 3⟩⟩, by decide +kernel⟩
  refine ⟨hfindings, ?_, hresolutions before "resolve x" ["exit", "exit"] "x" (by decide +kernel)
    (by rfl) hprints⟩
  rw [hfindings] at hstrict
  cases hstrict
  exact ⟨kept, hlax, hlast rfl, hfewer⟩

end Replays

end Script

end Scoping
