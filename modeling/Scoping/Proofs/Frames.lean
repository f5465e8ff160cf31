import Scoping.Script.Replay

namespace Scoping.Script

/-- An open scope is no more than the list of the declarations that it accepted: the place of a
declaration is its index and its address. -/
structure Frame where
  /-- The number of `enter` commands before the one that opened the frame. -/
  serial : Nat
  declarations : List Declaration := []
  deriving DecidableEq, Repr

structure Frames where
  /-- Innermost first. -/
  inner : List Frame := []
  /-- The number of `enter` commands so far. -/
  entered : Nat := 0
  deriving DecidableEq, Repr

structure Resolution where
  serial : Nat
  depth : Nat
  index : Nat
  declaration : Declaration
  deriving DecidableEq, Repr

def frameName (serial depth : Nat) : String :=
  "#" ++ toString serial ++ " (depth " ++ toString depth ++ ")"

def Resolution.text (found : Resolution) (name : String) : String :=
  let frame := frameName found.serial found.depth
  let type := found.declaration.type.spelling
  let kind := found.declaration.kind.spelling
  s!"{name} -> scope {frame}: index {found.index}, address {found.index}, "
    ++ s!"{type} {kind} declared at line {found.declaration.line}\n"

/-- Text in a column of blanks. Text wider than the column pushes the next one to the right. -/
def padded (width : Nat) (text : String) : String :=
  text ++ String.ofList (List.replicate (width - text.length) ' ')

def tableRow (index name type address line kind : String) : String :=
  s!"  {padded 6 index} {padded 17 name} {padded 10 type} {padded 8 address} {padded 6 line} "
    ++ s!"{kind}\n"

def longTagReport (name tag : String) (line max : Nat) : Diagnostic :=
  { Diagnostic.error s!"the tag `{tag}` of `{name}` is too long" with
    line := some line
    help := some s!"tags are at most {max} bytes long" }

def longNameReport (name : String) (line max : Nat) : Diagnostic :=
  { Diagnostic.error s!"`{name}` cannot be used as an identifier" with
    line := some line
    help := some s!"the identifier is {name.utf8ByteSize} bytes long, at most {max} are allowed" }

def unresolvedReport (name : String) (line : Nat) : Diagnostic :=
  { Diagnostic.error s!"the symbol `{name}` is not declared in any open scope" with
    line := some line }

def noFrameReport (line : Nat) : Diagnostic :=
  { Diagnostic.error "internal error: there is no open scope" with line := some line }

def malformedReport : LineFault → Diagnostic
  | .unknownCommand word line =>
    { Diagnostic.error s!"unknown command `{word}`" with
      line := some line
      help := some "expected one of `enter`, `exit`, `declare`, `resolve`, `dump`" }
  | .wrongArity keyword expected found line =>
    { Diagnostic.error
        s!"`{keyword.spelling}` takes {expected} operand(s) but {found} were given" with
      line := some line }

def duplicateReport (name : String) (first line : Nat) : Diagnostic :=
  { Diagnostic.error s!"the symbol `{name}` is already declared in this scope" with
    line := some line
    help := some "declarations in an inner scope may shadow this one"
    notes := [⟨first, "previously declared here"⟩] }

namespace Frame

def find? (frame : Frame) (name : String) : Option (Declaration × Nat) :=
  frame.declarations.zipIdx.find? fun entry => entry.1.name = name

/-- Why a declaration is refused. The tags are measured as they were written, before anything
else. -/
def refusal? (limits : Limits) (frame : Frame) (line : Nat) (name type kind : String) :
    Option Diagnostic :=
  if limits.maxTag < type.utf8ByteSize then
    some (longTagReport name type line limits.maxTag)
  else if limits.maxTag < kind.utf8ByteSize then
    some (longTagReport name kind line limits.maxTag)
  else if limits.maxName < name.utf8ByteSize then
    some (longNameReport name line limits.maxName)
  else (frame.find? name).map fun first => duplicateReport name first.1.line line

def add (frame : Frame) (declaration : Declaration) : Frame :=
  { frame with declarations := frame.declarations ++ [declaration] }

def dump (frame : Frame) (depth : Nat) : String :=
  "scope " ++ frameName frame.serial depth ++ "\n" ++
    if frame.declarations.isEmpty then "  (empty)\n"
    else tableRow "index" "name" "type" "address" "line" "kind"
      ++ String.join (frame.declarations.zipIdx.map fun entry =>
        tableRow (toString entry.2) entry.1.name entry.1.type.spelling (toString entry.2)
          (toString entry.1.line) entry.1.kind.spelling)

end Frame

def resolveFrames (name : String) : List Frame → Option Resolution
  | [] => none
  | frame :: outer =>
    match frame.find? name with
    | some (declaration, index) => some ⟨frame.serial, outer.length, index, declaration⟩
    | none => resolveFrames name outer

def dumpFrames : List Frame → String
  | [] => ""
  | frame :: outer => dumpFrames outer ++ frame.dump outer.length

namespace Frames

def enter (frames : Frames) : Frames :=
  { inner := ⟨frames.entered, []⟩ :: frames.inner, entered := frames.entered + 1 }

def dump (frames : Frames) : String :=
  if frames.inner.isEmpty then "no open scope\n" else dumpFrames frames.inner

/-- The frames after a command, the text that it prints and the diagnostic that it gives rise to.
There are none if the command finds no frame where it needs one. -/
def run (limits : Limits) (frames : Frames) (line : Nat) :
    Command → Option (Frames × String × List Diagnostic)
  | .enter => some (frames.enter, "", [])
  | .exit =>
    match frames.inner with
    | [] => none
    | _ :: outer => some ({ frames with inner := outer }, "", [])
  | .declare name type kind =>
    match frames.inner with
    | [] => none
    | frame :: outer =>
      match frame.refusal? limits line name type kind with
      | some diagnostic => some (frames, "", [diagnostic])
      | none =>
        let declaration : Declaration := { name, type := .ofWord type, kind := .ofWord kind, line }
        some ({ frames with inner := frame.add declaration :: outer }, "", [])
  | .resolve name =>
    match resolveFrames name frames.inner with
    | some found => some (frames, found.text name, [])
    | none => some (frames, "", [unresolvedReport name line])
  | .dump => some (frames, frames.dump, [])

end Frames

structure Transcript where
  text : String := ""
  diagnostics : List Diagnostic := []
  aborted : Bool := false
  deriving DecidableEq, Repr

def Transcript.prepend (text : String) (diagnostics : List Diagnostic) (later : Transcript) :
    Transcript :=
  { later with text := text ++ later.text, diagnostics := diagnostics ++ later.diagnostics }

/-- The dump at the end, if it is asked for, and the warning about frames that were left open. -/
def Frames.finish (options : Options) (frames : Frames) : Transcript where
  text := if options.dumpAtEnd then frames.dump else ""
  diagnostics :=
    if frames.inner.isEmpty then []
    else [.warning s!"{frames.inner.length} scope(s) left open at the end of the script"]

def interpretLines (options : Options) (frames : Frames) (line : Nat) : List String → Transcript
  | [] => frames.finish options
  | text :: later =>
    match Command.ofLine text line with
    | .error fault =>
      (interpretLines options frames (line + 1) later).prepend "" [malformedReport fault]
    | .ok none => interpretLines options frames (line + 1) later
    | .ok (some command) =>
      match frames.run options.limits line command with
      | none => { diagnostics := [noFrameReport line], aborted := true }
      | some (next, printed, found) =>
        (interpretLines options next (line + 1) later).prepend printed found

/-- What a replay of the script comes to, without handles, indexes, stores, counters and sinks. -/
def interpret (options : Options) (source : String) : Transcript :=
  interpretLines options {} 1 (sourceLines source)

end Scoping.Script
