import Scoping.Diagnostic

namespace Scoping

inductive Style
  | bold
  | boldRed
  | boldYellow
  | boldGreen
  | boldCyan
  deriving DecidableEq, Repr

/-- What a text in a style is shown as, which is up to the terminal. -/
structure Painter where
  paint : Style → String → String

/-- Without colors a text is shown as it is. -/
def Painter.plain : Painter := ⟨fun _ text => text⟩

structure Span where
  text : String
  style : Option Style := none
  deriving DecidableEq, Repr

namespace Span

def plain (text : String) : Span := { text }

def styled (style : Style) (text : String) : Span := { text, style }

def render (painter : Painter) (span : Span) : String :=
  match span.style with
  | some style => painter.paint style span.text
  | none => span.text

@[simp] theorem render_plain (span : Span) : span.render .plain = span.text := by
  rw [render]
  split <;> rfl

end Span

def Severity.header : Severity → Span
  | error => .styled .boldRed "[error]:"
  | warning => .styled .boldYellow "[warning]:"
  | info => .styled .boldGreen "[info]:"

namespace Diagnostic

def placeSpans (line : Nat) : List Span :=
  [.styled .boldCyan "-->", .plain (" line " ++ toString line)]

def noteSpans (note : Note) : List Span :=
  [.plain "\n  ", .styled .boldCyan "=", .plain (" " ++ note.message ++ ": ")]
    ++ placeSpans note.line

def lineSpans : Option Nat → List Span
  | none => []
  | some line => .plain "\n  " :: placeSpans line

def helpSpans : Option String → List Span
  | none => []
  | some help => [.plain "\n", .styled .bold "help", .plain (": " ++ help)]

def spans (diagnostic : Diagnostic) : List Span :=
  [diagnostic.severity.header, .plain " ", .styled .bold diagnostic.message]
    ++ lineSpans diagnostic.line
    ++ diagnostic.notes.flatMap noteSpans
    ++ helpSpans diagnostic.help

def render (painter : Painter) (diagnostic : Diagnostic) : String :=
  String.join (diagnostic.spans.map (Span.render painter))

end Diagnostic

end Scoping
