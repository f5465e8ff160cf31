import Scoping.Call
import Scoping.Fault.Detail

namespace Scoping

inductive Level
  | info
  | warning
  | debug
  | trace
  deriving DecidableEq, Repr

def Level.text : Level → String
  | info => "INFO"
  | warning => "WARN"
  | debug => "DEBUG"
  | trace => "TRACE"

inductive Entry
  | entered (scope : Handle)
  | exited (scope : Handle) (released : Nat)
  | unbalanced (expected found : Handle)
  | declared (scope : Handle) (symbol : Symbol)
  | resolved (name : String) (found : Option SymbolRef)
  | aborted (line : Nat) (fault : Fault)
  | replaying (file : String)
  deriving DecidableEq, Repr

namespace Entry

def level : Entry → Level
  | entered _ | exited .. => .debug
  | unbalanced .. | aborted .. => .warning
  | declared .. | resolved .. => .trace
  | replaying _ => .info

def foundText : Option SymbolRef → String
  | none => "None"
  | some symbol => "Some(" ++ symbol.detail ++ ")"

def message : Entry → String
  | entered scope => s!"entered scope {scope.text}"
  | exited scope released => s!"exited scope {scope.text}, released {released} symbol(s)"
  | unbalanced expected found =>
    s!"unbalanced scope exit: expected {expected.text}, found {found.text}"
  | declared scope symbol =>
    s!"declared `{symbol.name}` in scope {scope.text}: index {symbol.index}, "
      ++ s!"address {symbol.address.toNat}, {symbol.type.spelling} {symbol.kind.spelling}"
  | resolved name found => s!"resolved `{name}` to {foundText found}"
  | aborted line fault => s!"replay aborted at line {line}: {fault.message}"
  | replaying file => s!"replaying {file}"

def text (entry : Entry) : String := entry.level.text ++ " " ++ entry.message

end Entry

/-- What a call writes to the journal of a stack. Apart from a mismatched exit, a refused call
writes nothing. -/
def Call.entries (stack : Stack) : Call → List Entry
  | enter => [.entered stack.enter.1]
  | exit scope =>
    match (stack.tryExit scope).1 with
    | .ok _ => [.exited scope ((stack.scope? scope).elim 0 Scope.size)]
    | .error (.scopeMismatch expected found) => [.unbalanced expected found]
    | .error _ => []
  | declare scope declaration | declareReporting scope declaration =>
    match stack.tryDeclare scope declaration with
    | (.ok symbol, stack) => ((stack.get? symbol).map (Entry.declared scope)).toList
    | (.error _, _) => []
  | takeAddress _ => []
  | resolve name | resolveReporting name _ => [.resolved name (stack.resolve name)]

end Scoping
