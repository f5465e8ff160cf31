import Scoping.Stack

namespace Scoping

inductive Call
  | enter
  | exit (scope : Handle)
  | declare (scope : Handle) (declaration : Declaration)
  | declareReporting (scope : Handle) (declaration : Declaration)
  | takeAddress (scope : Handle)
  | resolve (name : String)
  | resolveReporting (name : String) (line : Nat)
  deriving DecidableEq, Repr

/-- What a call comes to. A reporting call that meets a semantic fault has only reported it. -/
inductive Answer
  | opened (scope : Handle)
  | closed
  | declared (symbol : SymbolRef)
  | address (address : Address)
  | resolved (symbol : Option SymbolRef)
  | reported (fault : Fault)
  | refused (fault : Fault)
  deriving DecidableEq, Repr

namespace Call

def perform (stack : Stack) : Call → Answer × Stack
  | enter => (.opened stack.enter.1, stack.enter.2)
  | exit scope =>
    match stack.tryExit scope with
    | (.ok _, stack) => (.closed, stack)
    | (.error fault, stack) => (.refused fault, stack)
  | declare scope declaration =>
    match stack.tryDeclare scope declaration with
    | (.ok symbol, stack) => (.declared symbol, stack)
    | (.error fault, stack) => (.refused fault, stack)
  | declareReporting scope declaration =>
    match stack.tryDeclare scope declaration with
    | (.ok symbol, stack) => (.declared symbol, stack)
    | (.error fault, stack) =>
      (if fault.isStructural then .refused fault else .reported fault, stack)
  | takeAddress scope =>
    match stack.tryTakeAddress scope with
    | (.ok address, stack) => (.address address, stack)
    | (.error fault, stack) => (.refused fault, stack)
  | resolve name => (.resolved (stack.resolve name), stack)
  | resolveReporting name line =>
    match stack.resolve name with
    | some symbol => (.resolved (some symbol), stack)
    | none => (.reported (.unresolved name line), stack)

def performAll (stack : Stack) (calls : List Call) : Stack :=
  calls.foldl (fun stack call => (perform stack call).2) stack

@[simp] theorem performAll_nil (stack : Stack) : performAll stack [] = stack := rfl

@[simp] theorem performAll_cons (stack : Stack) (call : Call) (calls : List Call) :
    performAll stack (call :: calls) = performAll (perform stack call).2 calls := rfl

theorem performAll_append (stack : Stack) (before after : List Call) :
    performAll stack (before ++ after) = performAll (performAll stack before) after := by
  simp [performAll]

end Call

end Scoping
