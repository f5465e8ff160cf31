import Scoping.Handler
import Scoping.Stack

namespace Scoping.Stack

section Receiving

variable {m : Type → Type} [Monad m] {η : Type}

/-- Declares a name for a caller that goes on after a semantic fault. `receive` takes the fault, and
the answer is `none`; a structural fault is the answer itself. -/
def declareOrReport (receive : η → Fault → m η) (stack : Stack) (handle : Handle)
    (declaration : Declaration) (handler : η) :
    m (Except Fault (Option SymbolRef) × Stack × η) :=
  match stack.tryDeclare handle declaration with
  | (.ok symbol, stack) => return (.ok (some symbol), stack, handler)
  | (.error fault, stack) =>
    if fault.isStructural then return (.error fault, stack, handler)
    else do
      let handler ← receive handler fault
      return (.ok none, stack, handler)

/-- Resolves a name, where `receive` takes the fault of a name that is found nowhere. -/
def resolveOrReport (receive : η → Fault → m η) (stack : Stack) (name : String) (line : Nat)
    (handler : η) : m (Option SymbolRef × η) :=
  match stack.resolve name with
  | some symbol => return (some symbol, handler)
  | none => do
    let handler ← receive handler (.unresolved name line)
    return (none, handler)

end Receiving

variable {η : Type} [Handler η Fault]

def declareReporting (stack : Stack) (handle : Handle) (declaration : Declaration) (handler : η) :
    Except Halt (Except Fault (Option SymbolRef) × Stack × η) :=
  stack.declareOrReport Handler.receive handle declaration handler

def resolveReporting (stack : Stack) (name : String) (line : Nat) (handler : η) :
    Except Halt (Option SymbolRef × η) :=
  stack.resolveOrReport Handler.receive name line handler

end Scoping.Stack
