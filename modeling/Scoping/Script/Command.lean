import Scoping.Diagnostic
import Scoping.Text.Words

namespace Scoping.Script

inductive Keyword
  | enter
  | exit
  | declare
  | resolve
  | dump
  deriving DecidableEq, Repr

namespace Keyword

def spelling : Keyword → String
  | enter => "enter"
  | exit => "exit"
  | declare => "declare"
  | resolve => "resolve"
  | dump => "dump"

def ofWord? : String → Option Keyword
  | "enter" => some enter
  | "exit" => some exit
  | "declare" => some declare
  | "resolve" => some resolve
  | "dump" => some dump
  | _ => none

def arity : Keyword → Nat
  | enter | exit | dump => 0
  | resolve => 1
  | declare => 3

theorem ofWord?_spelling (keyword : Keyword) : ofWord? keyword.spelling = some keyword := by
  cases keyword <;> rfl

end Keyword

inductive Command
  | enter
  | exit
  | declare (name type kind : String)
  | resolve (name : String)
  | dump
  deriving DecidableEq, Repr

namespace Command

def keyword : Command → Keyword
  | enter => .enter
  | exit => .exit
  | declare .. => .declare
  | resolve _ => .resolve
  | dump => .dump

def operands : Command → List String
  | enter | exit | dump => []
  | resolve name => [name]
  | declare name type kind => [name, type, kind]

def ofOperands? : Keyword → List String → Option Command
  | .enter, [] => some enter
  | .exit, [] => some exit
  | .declare, [name, type, kind] => some (declare name type kind)
  | .resolve, [name] => some (resolve name)
  | .dump, [] => some dump
  | _, _ => none

theorem ofOperands?_operands (command : Command) :
    ofOperands? command.keyword command.operands = some command := by
  cases command <;> rfl

end Command

inductive LineFault
  | unknownCommand (word : String) (line : Nat)
  | wrongArity (keyword : Keyword) (expected found line : Nat)
  deriving DecidableEq, Repr

namespace LineFault

def message : LineFault → String
  | unknownCommand word line => s!"unknown command `{word}` at line {line}"
  | wrongArity keyword expected found line =>
    s!"`{keyword.spelling}` at line {line} takes {expected} operand(s) but {found} were given"

def report : LineFault → Diagnostic
  | unknownCommand word line =>
    { Diagnostic.error s!"unknown command `{word}`" with
      line := some line
      help := some "expected one of `enter`, `exit`, `declare`, `resolve`, `dump`" }
  | wrongArity keyword expected found line =>
    (Diagnostic.error
      s!"`{keyword.spelling}` takes {expected} operand(s) but {found} were given").atLine line

end LineFault

/-- The command of a line, or `none` for a line without words. -/
def Command.ofLine (text : String) (line : Nat) : Except LineFault (Option Command) :=
  match (Text.words (Text.code text.toList)).map String.ofList with
  | [] => .ok none
  | word :: operands =>
    match Keyword.ofWord? word with
    | none => .error (.unknownCommand word line)
    | some keyword =>
      match Command.ofOperands? keyword operands with
      | none => .error (.wrongArity keyword keyword.arity operands.length line)
      | some command => .ok (some command)

end Scoping.Script
