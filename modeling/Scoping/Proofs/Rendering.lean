import Mathlib.Data.List.DropRight
import Scoping.Diagnostic.Rendering
import Scoping.Proofs.Dumps

namespace Scoping

/-- What a line of a rendering is about, other than the first. -/
inductive Remark
  | place (line : Nat)
  | note (note : Note)
  | help (text : String)
  deriving DecidableEq, Repr

namespace Remark

def separator : String := ": --> line "

def text : Remark → String
  | place line => "  --> line " ++ toString line
  | note ⟨line, message⟩ => "  = " ++ message ++ separator ++ toString line
  | help text => "help: " ++ text

def place? : Remark → Option Nat
  | place line => some line
  | _ => none

def note? : Remark → Option Note
  | note found => some found
  | _ => none

def help? : Remark → Option String
  | help text => some text
  | _ => none

def readPlace? (line : List Char) : Option Remark := do
  let digits ← line.dropPrefix? "  --> line ".toList
  let number ← Text.number? (String.ofList digits)
  some (.place number)

/-- The number stands at the end, where all digits belong to it. -/
def readNote? (line : List Char) : Option Remark := do
  let body ← line.dropPrefix? "  = ".toList
  let message ← (body.rdropWhile Char.isDigit).dropSuffix? separator.toList
  let number ← Text.number? (String.ofList (body.rtakeWhile Char.isDigit))
  some (.note ⟨number, String.ofList message⟩)

def readHelp? (line : List Char) : Option Remark := do
  let text ← line.dropPrefix? "help: ".toList
  some (.help (String.ofList text))

def ofLine? (line : List Char) : Option Remark :=
  readPlace? line <|> readNote? line <|> readHelp? line

end Remark

namespace Severity

def ofHeading? (line : List Char) : Option (Severity × String) :=
  [error, warning, info].findSome? fun severity =>
    (line.dropPrefix? (severity.header.text ++ " ").toList).map fun message =>
      (severity, String.ofList message)

end Severity

namespace Diagnostic

def texts (diagnostic : Diagnostic) : List String :=
  diagnostic.message :: diagnostic.notes.map Note.message ++ diagnostic.help.toList

/-- The character is in none of the texts. -/
def Avoids (diagnostic : Diagnostic) (c : Char) : Prop :=
  ∀ text ∈ diagnostic.texts, c ∉ text.toList

instance (diagnostic : Diagnostic) (c : Char) : Decidable (diagnostic.Avoids c) :=
  inferInstanceAs (Decidable (∀ text ∈ diagnostic.texts, c ∉ text.toList))

/-- What a rendering puts in front of the texts and of the numbers of lines. -/
def marks : List String :=
  ["[error]: ", "[warning]: ", "[info]: ", "  --> line ", "  = ", Remark.separator, "help: "]

/-- The character is in a rendering only if it is in one of the texts. -/
structure Foreign (c : Char) : Prop where
  marks : ∀ mark ∈ marks, c ∉ mark.toList
  notDigit : c.isDigit = false

def heading (diagnostic : Diagnostic) : String :=
  diagnostic.severity.header.text ++ " " ++ diagnostic.message

def remarks (diagnostic : Diagnostic) : List Remark :=
  diagnostic.line.toList.map .place ++ diagnostic.notes.map .note
    ++ diagnostic.help.toList.map .help

def ofRendering? (text : String) : Option Diagnostic :=
  match text.toList.splitOn '\n' with
  | [] => none
  | heading :: lines => do
    let (severity, message) ← Severity.ofHeading? heading
    let remarks ← lines.mapM Remark.ofLine?
    some {
      line := remarks.findSome? Remark.place?
      message
      severity
      help := remarks.findSome? Remark.help?
      notes := remarks.filterMap Remark.note? }

end Diagnostic

section Reading

namespace Text

theorem dropPrefix?_append (start rest : List Char) :
    (start ++ rest).dropPrefix? start = some rest :=
  List.dropPrefix?_append_of_beq rest (beq_self_eq_true start)

theorem dropSuffix?_append (rest final : List Char) :
    (rest ++ final).dropSuffix? final = some rest :=
  List.dropSuffix?_eq_some_iff.mpr ⟨final, rfl, beq_self_eq_true final⟩

theorem isDigit_of_mem_toString {n : Nat} : ∀ c ∈ (toString n).toList, c.isDigit = true := by
  intro c hc
  rw [Nat.toString_eq_repr, Nat.toList_repr] at hc
  exact Nat.isDigit_of_mem_toDigits (by decide) (by decide) hc

section Digits

variable {digits : List Char} {last : Char} (hdigits : ∀ c ∈ digits, c.isDigit = true)
  (hlast : last.isDigit = false)
include hdigits hlast

theorem rdropWhile_isDigit (front : List Char) :
    (front ++ last :: digits).rdropWhile Char.isDigit = front ++ [last] := by
  have hreversed : (front ++ last :: digits).reverse =
      digits.reverse ++ last :: front.reverse := by simp
  have hpos : ∀ c ∈ digits.reverse, c.isDigit = true := fun c hc =>
    hdigits c (List.mem_reverse.mp hc)
  have hneg : ¬ last.isDigit = true := Bool.eq_false_iff.mp hlast
  rw [List.rdropWhile, hreversed, List.dropWhile_append_of_pos hpos,
    List.dropWhile_cons_of_neg hneg, List.reverse_cons, List.reverse_reverse]

theorem rtakeWhile_isDigit (front : List Char) :
    (front ++ last :: digits).rtakeWhile Char.isDigit = digits := by
  have hwhole := List.rdropWhile_append_rtakeWhile (p := Char.isDigit)
    (l := front ++ last :: digits)
  rw [rdropWhile_isDigit hdigits hlast, List.append_assoc, List.singleton_append] at hwhole
  exact (List.cons.inj (List.append_cancel_left hwhole)).2

end Digits

end Text

/-- The three headings differ in the character after the bracket. -/
theorem Severity.ofHeading?_heading (severity : Severity) (message : String) :
    ofHeading? (severity.header.text ++ " " ++ message).toList = some (severity, message) := by
  have hdrop := Text.dropPrefix?_append (severity.header.text ++ " ").toList message.toList
  rw [String.toList_append, ofHeading?]
  cases severity with
  | error => rw [List.findSome?_cons, hdrop, Option.map_some, String.ofList_toList]
  | warning =>
    have herror : ((warning.header.text ++ " ").toList ++ message.toList).dropPrefix?
        (error.header.text ++ " ").toList = none := rfl
    rw [List.findSome?_cons, herror, Option.map_none, List.findSome?_cons, hdrop, Option.map_some,
      String.ofList_toList]
  | info =>
    have herror : ((info.header.text ++ " ").toList ++ message.toList).dropPrefix?
        (error.header.text ++ " ").toList = none := rfl
    have hwarning : ((info.header.text ++ " ").toList ++ message.toList).dropPrefix?
        (warning.header.text ++ " ").toList = none := rfl
    rw [List.findSome?_cons, herror, Option.map_none, List.findSome?_cons, hwarning,
      Option.map_none, List.findSome?_cons, hdrop, Option.map_some, String.ofList_toList]

namespace Remark

theorem ofLine?_place (line : Nat) : ofLine? (place line).text.toList = some (place line) := by
  have hplace : readPlace? (place line).text.toList = some (place line) := by
    rw [readPlace?, text, String.toList_append, Text.dropPrefix?_append]
    simp only [String.ofList_toList, Text.number?_toString, Option.bind_eq_bind, Option.bind_some]
  rw [ofLine?, hplace]
  rfl

theorem ofLine?_note (found : Note) : ofLine? (note found).text.toList = some (note found) := by
  obtain ⟨line, message⟩ := found
  -- The digits of the number end at the blank in front of it, whatever the message ends with.
  have hseparator : separator.toList = ": --> line".toList ++ [' '] := by decide
  have hdigits : ∀ c ∈ (toString line).toList, c.isDigit = true := Text.isDigit_of_mem_toString
  have hblank : ' '.isDigit = false := by decide
  have htext : (note ⟨line, message⟩).text.toList = "  = ".toList ++
      ((message.toList ++ ": --> line".toList) ++ ' ' :: (toString line).toList) := by
    simp only [text, String.toList_append, hseparator, List.append_assoc, List.singleton_append]
  have hplace : readPlace? (note ⟨line, message⟩).text.toList = none := by
    rw [htext]
    rfl
  have hnote : readNote? (note ⟨line, message⟩).text.toList = some (note ⟨line, message⟩) := by
    rw [readNote?, htext, Text.dropPrefix?_append]
    simp only [Option.bind_eq_bind, Option.bind_some]
    rw [Text.rdropWhile_isDigit hdigits hblank, Text.rtakeWhile_isDigit hdigits hblank,
      List.append_assoc, ← hseparator, Text.dropSuffix?_append]
    simp only [String.ofList_toList, Text.number?_toString, Option.bind_some]
  rw [ofLine?, hplace, hnote]
  rfl

theorem ofLine?_help (found : String) : ofLine? (help found).text.toList = some (help found) := by
  have htext : (help found).text.toList = "help: ".toList ++ found.toList :=
    String.toList_append
  have hplace : readPlace? (help found).text.toList = none := by
    rw [htext]
    rfl
  have hnote : readNote? (help found).text.toList = none := by
    rw [htext]
    rfl
  have hhelp : readHelp? (help found).text.toList = some (help found) := by
    rw [readHelp?, htext, Text.dropPrefix?_append]
    simp only [Option.bind_eq_bind, Option.bind_some, String.ofList_toList]
  rw [ofLine?, hplace, hnote, hhelp]
  rfl

theorem ofLine?_text (remark : Remark) : ofLine? remark.text.toList = some remark := by
  cases remark with
  | place line => exact ofLine?_place line
  | note found => exact ofLine?_note found
  | help text => exact ofLine?_help text

end Remark

end Reading

section Lines

/-- Lines that are set apart by line feeds can be told apart if there is none in them. -/
theorem Text.splitOn_flatMap {first : List Char} {others : List (List Char)}
    (single : ∀ line ∈ first :: others, '\n' ∉ line) :
    (first ++ others.flatMap fun line => '\n' :: line).splitOn '\n' = first :: others := by
  induction others generalizing first with
  | nil =>
    rw [List.flatMap_nil, List.append_nil]
    exact List.splitOn_eq_singleton (single first List.mem_cons_self)
  | cons next others ih =>
    rw [List.forall_mem_cons] at single
    rw [List.flatMap_cons, List.cons_append, List.splitOn_append_cons_self, ih single.2,
      List.splitOn_eq_singleton single.1, List.singleton_append]

namespace Diagnostic

theorem toList_render (painter : Painter) (diagnostic : Diagnostic) :
    (diagnostic.render painter).toList =
      diagnostic.spans.flatMap fun span => (span.render painter).toList := by
  rw [render]
  induction diagnostic.spans with
  | nil => rfl
  | cons span spans ih =>
    rw [List.map_cons, String.join_cons, String.toList_append, ih, List.flatMap_cons]

def remarkLine (remark : Remark) : List Char := '\n' :: remark.text.toList

theorem shown_lineSpans (line : Option Nat) :
    ((lineSpans line).flatMap fun span => span.text.toList) =
      (line.toList.map Remark.place).flatMap remarkLine := by
  cases line with
  | none => rfl
  | some line => simp [lineSpans, placeSpans, remarkLine, Remark.text, Span.plain, Span.styled]

theorem shown_noteSpans (note : Note) :
    ((noteSpans note).flatMap fun span => span.text.toList) = remarkLine (.note note) := by
  simp [noteSpans, placeSpans, remarkLine, Remark.text, Remark.separator, Span.plain, Span.styled]

theorem shown_helpSpans (help : Option String) :
    ((helpSpans help).flatMap fun span => span.text.toList) =
      (help.toList.map Remark.help).flatMap remarkLine := by
  cases help with
  | none => rfl
  | some help => simp [helpSpans, remarkLine, Remark.text, Span.plain, Span.styled]

theorem shown_headingSpans (diagnostic : Diagnostic) :
    ([diagnostic.severity.header, Span.plain " ", Span.styled .bold diagnostic.message].flatMap
      fun span => span.text.toList) = diagnostic.heading.toList := by
  simp [heading, Span.plain, Span.styled]

/-- Without colors the heading and the remarks are on lines of their own. -/
theorem toList_render_plain (diagnostic : Diagnostic) :
    (diagnostic.render .plain).toList =
      diagnostic.heading.toList ++ diagnostic.remarks.flatMap remarkLine := by
  simp only [toList_render, Span.render_plain, spans, remarks, List.flatMap_append,
    shown_headingSpans, shown_lineSpans, shown_helpSpans, List.flatMap_assoc, shown_noteSpans,
    List.flatMap_map, List.append_assoc]

section Avoids

variable {c : Char}

theorem Foreign.not_mem_toString (foreign : Foreign c) (n : Nat) : c ∉ (toString n).toList := by
  intro hmem
  have hdigit := Text.isDigit_of_mem_toString c hmem
  rw [foreign.notDigit] at hdigit
  simp at hdigit

variable {diagnostic : Diagnostic} (foreign : Foreign c) (avoids : diagnostic.Avoids c)
include foreign avoids

theorem not_mem_heading : c ∉ diagnostic.heading.toList := by
  have hmessage : c ∉ diagnostic.message.toList := avoids _ List.mem_cons_self
  have hseverity : c ∉ (diagnostic.severity.header.text ++ " ").toList := by
    apply foreign.marks
    cases diagnostic.severity <;> decide
  rw [heading, String.toList_append, List.mem_append, not_or]
  exact ⟨hseverity, hmessage⟩

theorem not_mem_remark : ∀ remark ∈ diagnostic.remarks, c ∉ remark.text.toList := by
  intro remark hremark
  rw [remarks, List.mem_append, List.mem_append, List.mem_map, List.mem_map,
    List.mem_map] at hremark
  rcases hremark with (⟨line, _, rfl⟩ | ⟨⟨line, message⟩, hnote, rfl⟩) | ⟨help, hhelp, rfl⟩
  · rw [Remark.text, String.toList_append, List.mem_append, not_or]
    exact ⟨foreign.marks _ (by decide), foreign.not_mem_toString line⟩
  · have hmessage : c ∉ message.toList :=
      avoids _ (List.mem_append_left _ (List.mem_cons_of_mem _ (List.mem_map_of_mem hnote)))
    simp only [Remark.text, String.toList_append, List.mem_append, not_or]
    exact ⟨⟨⟨foreign.marks _ (by decide), hmessage⟩, foreign.marks _ (by decide)⟩,
      foreign.not_mem_toString line⟩
  · have hhelp : c ∉ help.toList := avoids _ (List.mem_append_right _ hhelp)
    rw [Remark.text, String.toList_append, List.mem_append, not_or]
    exact ⟨foreign.marks _ (by decide), hhelp⟩

end Avoids

theorem splitOn_render {diagnostic : Diagnostic} (single : diagnostic.Avoids '\n') :
    (diagnostic.render .plain).toList.splitOn '\n' =
      diagnostic.heading.toList :: diagnostic.remarks.map fun remark => remark.text.toList := by
  have hflat : diagnostic.remarks.flatMap remarkLine =
      (diagnostic.remarks.map fun remark => remark.text.toList).flatMap fun line =>
        '\n' :: line := by
    rw [List.flatMap_map]
    rfl
  rw [toList_render_plain, hflat]
  apply Text.splitOn_flatMap
  rw [List.forall_mem_cons, List.forall_mem_map]
  have foreign : Foreign '\n' := ⟨by decide, by decide⟩
  exact ⟨not_mem_heading foreign single, not_mem_remark foreign single⟩

theorem mapM_ofLine? (remarks : List Remark) :
    (remarks.map fun remark => remark.text.toList).mapM Remark.ofLine? = some remarks := by
  induction remarks with
  | nil => rfl
  | cons remark remarks ih =>
    rw [List.map_cons, List.mapM_cons, Remark.ofLine?_text, ih]
    rfl

theorem place?_remarks (diagnostic : Diagnostic) :
    diagnostic.remarks.findSome? Remark.place? = diagnostic.line := by
  have hnotes : (diagnostic.notes.map Remark.note).findSome? Remark.place? = none := by
    simp [Remark.place?]
  have hhelp : (diagnostic.help.toList.map Remark.help).findSome? Remark.place? = none := by
    simp [Remark.place?]
  rw [remarks, List.findSome?_append, List.findSome?_append, hnotes, hhelp]
  cases diagnostic.line <;> rfl

theorem note?_remarks (diagnostic : Diagnostic) :
    diagnostic.remarks.filterMap Remark.note? = diagnostic.notes := by
  have hline : (diagnostic.line.toList.map Remark.place).filterMap Remark.note? = [] := by
    simp [Remark.note?]
  have hhelp : (diagnostic.help.toList.map Remark.help).filterMap Remark.note? = [] := by
    simp [Remark.note?]
  have hnotes : (diagnostic.notes.map Remark.note).filterMap Remark.note? = diagnostic.notes := by
    rw [List.filterMap_map]
    exact List.filterMap_some
  rw [remarks, List.filterMap_append, List.filterMap_append, hline, hhelp, hnotes, List.nil_append,
    List.append_nil]

theorem help?_remarks (diagnostic : Diagnostic) :
    diagnostic.remarks.findSome? Remark.help? = diagnostic.help := by
  have hline : (diagnostic.line.toList.map Remark.place).findSome? Remark.help? = none := by
    simp [Remark.help?]
  have hnotes : (diagnostic.notes.map Remark.note).findSome? Remark.help? = none := by
    simp [Remark.help?]
  rw [remarks, List.findSome?_append, List.findSome?_append, hline, hnotes]
  cases diagnostic.help <;> rfl

theorem ofRendering?_render {diagnostic : Diagnostic} (single : diagnostic.Avoids '\n') :
    ofRendering? (diagnostic.render .plain) = some diagnostic := by
  rw [ofRendering?, splitOn_render single]
  simp only [heading, Severity.ofHeading?_heading, mapM_ofLine?, place?_remarks, note?_remarks,
    help?_remarks, Option.bind_eq_bind, Option.bind_some]

end Diagnostic

end Lines

/-- A diagnostic whose texts have no line feeds can be read back from its rendering without colors,
whatever its texts say: its severity, its message, its line if it has one, its notes in order with
their lines, and its help if there is any. So no two such diagnostics are rendered alike. -/
theorem rendering_reads_back {diagnostic : Diagnostic} (single : diagnostic.Avoids '\n') :
    Diagnostic.ofRendering? (diagnostic.render .plain) = some diagnostic ∧
    ∀ other : Diagnostic, other.Avoids '\n' →
      (diagnostic.render .plain = other.render .plain ↔ diagnostic = other) := by
  have hread := Diagnostic.ofRendering?_render single
  refine ⟨hread, fun other single' => ⟨fun same => ?_, fun same => by rw [same]⟩⟩
  have hother := Diagnostic.ofRendering?_render single'
  rw [← same, hread] at hother
  exact Option.some.inj hother

/-- Texts that imitate the marks and the numbers of lines. -/
theorem rendering_reads_back_among_imitations :
    let diagnostic : Diagnostic :=
      { message := "help: = x: --> line 7"
        severity := .warning
        help := some "  = y: --> line 2"
        notes := [⟨7, "a: --> line 4"⟩, ⟨47, ""⟩] }
    let other : Diagnostic := { diagnostic with notes := [⟨47, "a: --> line 4"⟩] }
    diagnostic.Avoids '\n' ∧ other.Avoids '\n' ∧
      diagnostic.render .plain = "[warning]: help: = x: --> line 7\n  = a: --> line 4: --> line 7\n"
        ++ "  = : --> line 47\nhelp:   = y: --> line 2" ∧
      Diagnostic.ofRendering? (diagnostic.render .plain) = some diagnostic ∧
      diagnostic.render .plain ≠ other.render .plain := by
  intro diagnostic other
  have single : diagnostic.Avoids '\n' := by decide
  have single' : other.Avoids '\n' := by decide
  obtain ⟨hread, hsame⟩ := rendering_reads_back single
  refine ⟨single, single', by decide +kernel, hread, fun same => ?_⟩
  exact absurd ((hsame other single').mp same) (by decide)

end Scoping
