import Scoping.Diagnostic.Ansi
import Scoping.Proofs.Rendering

namespace Scoping

namespace Terminal

inductive Token
  | shown (c : Char)
  | sequence (codes : List Char)
  deriving DecidableEq, Repr

/-- Codes are numbers with semicolons between them. -/
def isCode (c : Char) : Bool := c.isDigit || c = ';'

/-- The codes of the sequence that a text starts with, and the text after it. An `m` ends the
sequence. -/
def sequence? : List Char → Option (List Char × List Char)
  | '\x1b' :: '[' :: body =>
    match body.dropWhile isCode with
    | 'm' :: later => some (body.takeWhile isCode, later)
    | _ => none
  | _ => none

theorem length_lt_of_sequence? {text codes later : List Char}
    (h : sequence? text = some (codes, later)) : later.length < text.length := by
  unfold sequence? at h
  split at h
  · next body =>
    split at h
    · next rest hrest =>
      obtain ⟨-, rfl⟩ := Prod.mk.inj (Option.some.inj h)
      have hle := (List.dropWhile_suffix isCode (l := body)).length_le
      rw [hrest, List.length_cons] at hle
      simp only [List.length_cons]
      omega
    · simp at h
  · simp at h

/-- Reads a text from left to right. What is not a sequence is shown. -/
def scan (text : List Char) : List Token :=
  match text with
  | [] => []
  | c :: later =>
    match _ : sequence? (c :: later) with
    | some (codes, rest) => .sequence codes :: scan rest
    | none => .shown c :: scan later
termination_by text.length
decreasing_by
  · exact length_lt_of_sequence? ‹_›
  · exact Nat.lt_succ_self _

def Token.char? : Token → Option Char
  | shown c => some c
  | sequence _ => none

def Token.codes? : Token → Option (List Char)
  | shown _ => none
  | sequence codes => some codes

def withoutSequences (text : String) : String :=
  String.ofList ((scan text.toList).filterMap Token.char?)

def reset : List Char := ['0']

/-- Openings and resets in turn, from an opening to a reset. -/
inductive Alternate (codes : Style → List Char) : List (List Char) → Prop
  | pair (style : Style) : Alternate codes [codes style, reset]
  | cons (style : Style) {later : List (List Char)} (alternate : Alternate codes later) :
      Alternate codes (codes style :: reset :: later)

/-- The codes in force after a token. -/
def Token.apply (active : List (List Char)) : Token → List (List Char)
  | shown _ => active
  | sequence codes => if codes = reset then [] else active ++ [codes]

/-- The characters shown, each with the codes in force where it stands. -/
def paint (active : List (List Char)) : List Token → List (Char × List (List Char))
  | [] => []
  | .shown c :: later => (c, active) :: paint active later
  | .sequence codes :: later => paint (Token.apply active (.sequence codes)) later

section Scanning

theorem scan_cons_of_ne {c : Char} (h : c ≠ '\x1b') (text : List Char) :
    scan (c :: text) = .shown c :: scan text := by
  have hnone : sequence? (c :: text) = none := by
    unfold sequence?
    split
    · next hcons => exact absurd (List.cons.inj hcons).1 h
    · rfl
  rw [scan]
  split
  · next hsome =>
    rw [hnone] at hsome
    simp at hsome
  · rfl

/-- Only where an escape stands is a terminal on its guard. -/
theorem scan_append_of_not_mem {front : List Char} (h : '\x1b' ∉ front) (text : List Char) :
    scan (front ++ text) = front.map Token.shown ++ scan text := by
  induction front with
  | nil => rfl
  | cons c front ih =>
    rw [List.mem_cons, not_or] at h
    rw [List.cons_append, scan_cons_of_ne (Ne.symm h.1), ih h.2, List.map_cons, List.cons_append]

theorem scan_sequence {codes : List Char} (h : ∀ c ∈ codes, isCode c = true) (text : List Char) :
    scan ('\x1b' :: '[' :: (codes ++ 'm' :: text)) = .sequence codes :: scan text := by
  have hend : ¬ isCode 'm' = true := by decide
  have hsequence : sequence? ('\x1b' :: '[' :: (codes ++ 'm' :: text)) = some (codes, text) := by
    rw [sequence?, List.dropWhile_append_of_pos h, List.dropWhile_cons_of_neg hend,
      List.takeWhile_append_of_pos h, List.takeWhile_cons_of_neg hend, List.append_nil]
    rfl
  rw [scan]
  split
  · next hsome =>
    rw [hsequence, Option.some.injEq, Prod.mk.injEq] at hsome
    obtain ⟨rfl, rfl⟩ := hsome
    rfl
  · next hnone =>
    rw [hsequence] at hnone
    simp at hnone

end Scanning

end Terminal

/-- A painter that puts a sequence with the codes of the style in front of a text and a reset behind
it. The codes are numbers and not those of the reset. -/
structure Painter.Wraps (painter : Painter) (codes : Style → List Char) : Prop where
  paint_eq : ∀ style text, painter.paint style text =
    "\x1b[" ++ String.ofList (codes style) ++ "m" ++ text ++ "\x1b[0m"
  isCode : ∀ style, ∀ c ∈ codes style, Terminal.isCode c = true
  ne_reset : ∀ style, codes style ≠ Terminal.reset

structure Painter.LeavesBare (painter : Painter) : Prop where
  paint_eq : ∀ style text, painter.paint style text = text

theorem Painter.LeavesBare.eq_plain {painter : Painter} (bare : painter.LeavesBare) :
    painter = .plain := by
  obtain ⟨paint⟩ := painter
  exact congrArg Painter.mk (funext fun style => funext (bare.paint_eq style))

def Span.tokens (codes : Style → List Char) (span : Span) : List Terminal.Token :=
  match span.style with
  | none => span.text.toList.map .shown
  | some style =>
    .sequence (codes style) :: span.text.toList.map .shown ++ [.sequence Terminal.reset]

namespace Terminal

theorem isCode_of_mem_reset : ∀ c ∈ reset, isCode c = true := by
  have hall : reset.all isCode = true := by decide
  exact List.all_eq_true.mp hall

section Spans

variable {painter : Painter} {codes : Style → List Char} {span : Span} {spans : List Span}

theorem scan_span (wraps : painter.Wraps codes) (plain : '\x1b' ∉ span.text.toList)
    (later : List Char) :
    scan ((span.render painter).toList ++ later) = span.tokens codes ++ scan later := by
  obtain ⟨text, style⟩ := span
  cases style with
  | none => exact scan_append_of_not_mem plain later
  | some style =>
    have htext : ((Span.styled style text).render painter).toList ++ later =
        '\x1b' :: '[' :: (codes style ++ 'm' :: (text.toList ++
          '\x1b' :: '[' :: (reset ++ 'm' :: later))) := by
      simp [Span.render, Span.styled, wraps.paint_eq, reset]
    show scan (((Span.styled style text).render painter).toList ++ later) = _
    -- From left to right: the opening, the text, and the reset, after which the rest is read.
    rw [htext, scan_sequence (wraps.isCode style), scan_append_of_not_mem plain,
      scan_sequence isCode_of_mem_reset]
    simp [Span.tokens]

theorem scan_spans (wraps : painter.Wraps codes)
    (plain : ∀ span ∈ spans, '\x1b' ∉ span.text.toList) :
    scan (spans.flatMap fun span => (span.render painter).toList) =
      spans.flatMap (Span.tokens codes) := by
  induction spans with
  | nil => simp [scan]
  | cons span spans ih =>
    rw [List.forall_mem_cons] at plain
    rw [List.flatMap_cons, scan_span wraps plain.1, ih plain.2, List.flatMap_cons]

theorem shown_tokens (codes : Style → List Char) (span : Span) :
    (span.tokens codes).filterMap Token.char? = span.text.toList := by
  have hshown : (span.text.toList.map Token.shown).filterMap Token.char? = span.text.toList := by
    rw [List.filterMap_map]
    exact List.filterMap_some
  obtain ⟨text, style⟩ := span
  cases style with
  | none => exact hshown
  | some style =>
    show (Token.sequence _ :: text.toList.map Token.shown ++ [Token.sequence _]).filterMap _ = _
    rw [List.filterMap_append, List.filterMap_cons, hshown]
    simp [Token.char?]

def spanCodes (codes : Style → List Char) (span : Span) : List (List Char) :=
  match span.style with
  | none => []
  | some style => [codes style, reset]

theorem codes_tokens (codes : Style → List Char) (span : Span) :
    (span.tokens codes).filterMap Token.codes? = spanCodes codes span := by
  have hshown : (span.text.toList.map Token.shown).filterMap Token.codes? = [] := by
    simp [Token.codes?]
  obtain ⟨text, style⟩ := span
  cases style with
  | none => exact hshown
  | some style =>
    show (Token.sequence _ :: text.toList.map Token.shown ++ [Token.sequence _]).filterMap _ = _
    rw [List.filterMap_append, List.filterMap_cons, hshown]
    rfl

theorem alternate_flatMap (codes : Style → List Char) (spans : List Span) :
    spans.flatMap (spanCodes codes) = [] ∨
      Alternate codes (spans.flatMap (spanCodes codes)) := by
  induction spans with
  | nil => exact Or.inl rfl
  | cons span spans ih =>
    obtain ⟨text, style⟩ := span
    cases style with
    | none => exact ih
    | some style =>
      right
      show Alternate codes (codes style :: reset :: spans.flatMap (spanCodes codes))
      rcases ih with hnone | halternate
      · rw [hnone]
        exact .pair style
      · exact .cons style halternate

theorem paint_append (active : List (List Char)) (tokens later : List Token) :
    paint active (tokens ++ later) =
      paint active tokens ++ paint (tokens.foldl Token.apply active) later := by
  induction tokens generalizing active with
  | nil => rfl
  | cons token tokens ih =>
    cases token with
    | shown c =>
      rw [List.cons_append, paint, ih, paint, List.foldl_cons, List.cons_append]
      rfl
    | sequence codes => rw [List.cons_append, paint, ih, paint, List.foldl_cons]

theorem paint_shown (active : List (List Char)) (text : List Char) :
    paint active (text.map Token.shown) = text.map fun c => (c, active) := by
  induction text with
  | nil => rfl
  | cons c text ih => rw [List.map_cons, paint, ih, List.map_cons]

theorem foldl_apply_shown (active : List (List Char)) (text : List Char) :
    (text.map Token.shown).foldl Token.apply active = active := by
  induction text with
  | nil => rfl
  | cons c text ih =>
    rw [List.map_cons, List.foldl_cons]
    exact ih

/-- The characters of a span, each in the style of the span and in no other. -/
def painted (codes : Style → List Char) (span : Span) : List (Char × List (List Char)) :=
  span.text.toList.map fun c => (c, span.style.toList.map codes)

theorem paint_tokens (ne_reset : ∀ style, codes style ≠ reset) (span : Span) :
    paint [] (span.tokens codes) = painted codes span ∧
      (span.tokens codes).foldl Token.apply [] = [] := by
  obtain ⟨text, style⟩ := span
  cases style with
  | none => exact ⟨paint_shown [] text.toList, foldl_apply_shown [] text.toList⟩
  | some style =>
    have hopen : Token.apply [] (.sequence (codes style)) = [codes style] :=
      if_neg (ne_reset style)
    have hreset : Token.apply [codes style] (.sequence reset) = [] := by
      rw [Token.apply, if_pos rfl]
    simp only [Span.tokens, List.cons_append]
    constructor
    · rw [paint, hopen, paint_append, paint_shown, foldl_apply_shown, paint, hreset, paint,
        List.append_nil]
      rfl
    · rw [List.foldl_cons, hopen, List.foldl_append, foldl_apply_shown, List.foldl_cons, hreset,
        List.foldl_nil]

theorem paint_flatMap (ne_reset : ∀ style, codes style ≠ reset) (spans : List Span) :
    paint [] (spans.flatMap (Span.tokens codes)) = spans.flatMap (painted codes) ∧
      (spans.flatMap (Span.tokens codes)).foldl Token.apply [] = [] := by
  induction spans with
  | nil => exact ⟨rfl, rfl⟩
  | cons span spans ih =>
    obtain ⟨hpaint, hover⟩ := paint_tokens ne_reset span
    rw [List.flatMap_cons, paint_append, List.foldl_append, hpaint, hover, ih.1, ih.2]
    exact ⟨rfl, rfl⟩

end Spans

end Terminal

namespace Diagnostic

variable {painter : Painter} {codes : Style → List Char} {diagnostic : Diagnostic}

theorem not_mem_spans (plain : diagnostic.Avoids '\x1b') :
    ∀ span ∈ diagnostic.spans, '\x1b' ∉ span.text.toList := by
  have foreign : Foreign '\x1b' := ⟨by decide, by decide⟩
  intro span hspan hmem
  have hrender : '\x1b' ∈ (diagnostic.render .plain).toList := by
    rw [toList_render]
    simp only [Span.render_plain]
    exact List.mem_flatMap.mpr ⟨span, hspan, hmem⟩
  rw [toList_render_plain, List.mem_append] at hrender
  rcases hrender with hheading | hremarks
  · exact not_mem_heading foreign plain hheading
  · obtain ⟨remark, hremark, hline⟩ := List.mem_flatMap.mp hremarks
    -- A line feed is no escape.
    rcases List.mem_cons.mp hline with hfeed | htext
    · exact absurd hfeed (by decide)
    · exact not_mem_remark foreign plain remark hremark htext

theorem scan_render (wraps : painter.Wraps codes) (plain : diagnostic.Avoids '\x1b') :
    Terminal.scan (diagnostic.render painter).toList =
      diagnostic.spans.flatMap (Span.tokens codes) := by
  rw [toList_render]
  exact Terminal.scan_spans wraps (not_mem_spans plain)

theorem withoutSequences_render (wraps : painter.Wraps codes) (plain : diagnostic.Avoids '\x1b') :
    Terminal.withoutSequences (diagnostic.render painter) = diagnostic.render .plain := by
  rw [Terminal.withoutSequences, scan_render wraps plain, List.filterMap_flatMap]
  simp only [Terminal.shown_tokens]
  rw [← String.toList_inj, String.toList_ofList, toList_render]
  simp only [Span.render_plain]

/-- The message always has a style. -/
theorem alternate_spans (codes : Style → List Char) (diagnostic : Diagnostic) :
    Terminal.Alternate codes (diagnostic.spans.flatMap (Terminal.spanCodes codes)) := by
  rcases Terminal.alternate_flatMap codes diagnostic.spans with hnone | halternate
  · have hmessage : Span.styled .bold diagnostic.message ∈ diagnostic.spans := by simp [spans]
    have hcodes := List.flatMap_eq_nil_iff.mp hnone _ hmessage
    exact absurd hcodes (List.cons_ne_nil _ _)
  · exact halternate

end Diagnostic

/-- Any diagnostic without an escape in its texts, and any terminal that wraps a text in codes of
its style and a reset where there are colors and leaves it bare where there are none. With colors
the diagnostic is rendered as without them except for the sequences, so that a terminal shows the
same characters. The sequences turn a style on and all styles off in turn, from the first to the
last, so each character is shown in the one style of its span, or in none if the span has no style,
and none is in force at the end. -/
theorem colors_only_paint {colored bare : Painter} {codes : Style → List Char}
    (wraps : colored.Wraps codes) (leavesBare : bare.LeavesBare) {diagnostic : Diagnostic}
    (plain : diagnostic.Avoids '\x1b') :
    let tokens := Terminal.scan (diagnostic.render colored).toList
    Terminal.withoutSequences (diagnostic.render colored) = diagnostic.render bare ∧
    Terminal.Alternate codes (tokens.filterMap Terminal.Token.codes?) ∧
    Terminal.paint [] tokens = diagnostic.spans.flatMap (Terminal.painted codes) ∧
    tokens.foldl Terminal.Token.apply [] = [] := by
  intro tokens
  obtain rfl := leavesBare.eq_plain
  have htokens : tokens = diagnostic.spans.flatMap (Span.tokens codes) :=
    Diagnostic.scan_render wraps plain
  obtain ⟨hpaint, hover⟩ := Terminal.paint_flatMap wraps.ne_reset diagnostic.spans
  have hcodes : tokens.filterMap Terminal.Token.codes? =
      diagnostic.spans.flatMap (Terminal.spanCodes codes) := by
    rw [htokens, List.filterMap_flatMap]
    simp only [Terminal.codes_tokens]
  refine ⟨Diagnostic.withoutSequences_render wraps plain, ?_, ?_, ?_⟩
  · rw [hcodes]
    exact diagnostic.alternate_spans codes
  · rw [htokens, hpaint]
  · rw [htokens, hover]

theorem Painter.wraps_ansi : Painter.ansi.Wraps fun style => style.ansi.toList where
  paint_eq style text := by rw [String.ofList_toList]; rfl
  isCode style := List.all_eq_true.mp (by cases style <;> decide)
  ne_reset style := by cases style <;> decide

theorem Painter.leavesBare_plain : Painter.plain.LeavesBare := ⟨fun _ _ => rfl⟩

/-- Brackets, codes and the letter that ends a sequence are shown where no escape is in front of
them. -/
theorem colors_only_paint_among_imitations :
    let diagnostic : Diagnostic :=
      { message := "[1;31m", severity := .info, help := some "0m", notes := [⟨7, "[0m"⟩] }
    Painter.ansi.Wraps (fun style => style.ansi.toList) ∧ Painter.plain.LeavesBare ∧
      diagnostic.Avoids '\x1b' ∧
      diagnostic.render .ansi = "\x1b[1;92m[info]:\x1b[0m \x1b[1m[1;31m\x1b[0m\n"
        ++ "  \x1b[1;96m=\x1b[0m [0m: \x1b[1;96m-->\x1b[0m line 7\n\x1b[1mhelp\x1b[0m: 0m" ∧
      Terminal.withoutSequences (diagnostic.render .ansi) =
        "[info]: [1;31m\n  = [0m: --> line 7\nhelp: 0m" := by
  intro diagnostic
  have plain : diagnostic.Avoids '\x1b' := by decide
  obtain ⟨hshown, -⟩ := colors_only_paint Painter.wraps_ansi Painter.leavesBare_plain plain
  have hrender : diagnostic.render .plain = "[info]: [1;31m\n  = [0m: --> line 7\nhelp: 0m" := by
    decide +kernel
  exact ⟨Painter.wraps_ansi, Painter.leavesBare_plain, plain, by decide +kernel,
    hshown.trans hrender⟩

end Scoping
