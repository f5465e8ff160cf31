import Scoping.Scope

namespace Scoping

/-- The open scopes of a program, one inside the other. Only the innermost one can be closed, while
any of them takes declarations. -/
structure Stack where
  /-- Outermost first, so a scope of depth `d` stands at position `d`. -/
  scopes : List Scope := []
  nextSerial : UInt64 := 0
  limits : Limits := {}
  deriving DecidableEq, Repr

namespace Stack

def depth (stack : Stack) : Nat := stack.scopes.length

def handles (stack : Stack) : List Handle := stack.scopes.reverse.map Scope.handle

/-- The open scope with the given handle, looked for at its depth. -/
def scope? (stack : Stack) (handle : Handle) : Option Scope :=
  stack.scopes[handle.depth]?.filter fun scope => scope.handle = handle

def isOpen (stack : Stack) (handle : Handle) : Bool := (stack.scope? handle).isSome

def scope (stack : Stack) (handle : Handle) : Except Fault Scope :=
  match stack.scope? handle with
  | some scope => .ok scope
  | none => .error (.closedScope handle)

def put (stack : Stack) (handle : Handle) (scope : Scope) : Stack :=
  { stack with scopes := stack.scopes.set handle.depth scope }

def innermost (stack : Stack) : Except Fault Handle :=
  match stack.scopes.getLast? with
  | some scope => .ok scope.handle
  | none => .error .noOpenScope

/-- Opens an empty scope inside the innermost one. -/
def enter (stack : Stack) : Handle × Stack :=
  let handle : Handle := ⟨stack.nextSerial, stack.depth⟩
  (handle, { stack with
    scopes := stack.scopes ++ [{ handle }]
    nextSerial := stack.nextSerial + 1 })

/-- Closes the innermost scope, which has to be the one with the given handle. -/
def tryExit (stack : Stack) (handle : Handle) : Except Fault Unit × Stack :=
  match stack.innermost with
  | .error fault => (.error fault, stack)
  | .ok innermost =>
    if innermost = handle then (.ok (), { stack with scopes := stack.scopes.dropLast })
    else (.error (.scopeMismatch innermost handle), stack)

def tryTakeAddress (stack : Stack) (handle : Handle) : Except Fault Address × Stack :=
  match stack.scope? handle with
  | none => (.error (.closedScope handle), stack)
  | some scope =>
    let (answer, scope) := scope.tryTakeAddress
    (answer, stack.put handle scope)

/-- Declares a name in an open scope. The scopes around it are not looked at: an inner name may
hide an outer one. -/
def tryDeclare (stack : Stack) (handle : Handle) (declaration : Declaration) :
    Except Fault SymbolRef × Stack :=
  match stack.scope? handle with
  | none => (.error (.closedScope handle), stack)
  | some scope =>
    match stack.limits.declarationFault? declaration with
    | some fault => (.error fault, stack)
    | none =>
      let (answer, scope) := scope.tryDeclare declaration
      (answer, stack.put handle scope)

def lookupIn (stack : Stack) (handle : Handle) (name : String) :
    Except Fault (Option SymbolRef) :=
  (stack.scope handle).map fun scope => scope.lookupRef? name

/-- Finds a name in the innermost open scope that has it. -/
def resolve (stack : Stack) (name : String) : Option SymbolRef :=
  stack.scopes.reverse.findSome? fun scope => scope.lookupRef? name

def refsIn (stack : Stack) (handle : Handle) : Except Fault (List SymbolRef) :=
  (stack.scope handle).map Scope.refs

/-- The symbol itself, while its scope is open. -/
def get? (stack : Stack) (symbol : SymbolRef) : Option Symbol :=
  (stack.scope? symbol.scope).bind fun scope => scope.get? symbol.symbol

theorem scope?_eq_some_iff {stack : Stack} {handle : Handle} {scope : Scope} :
    stack.scope? handle = some scope ↔
      stack.scopes[handle.depth]? = some scope ∧ scope.handle = handle := by
  simp [scope?, Option.filter_eq_some_iff]

@[simp] theorem enter_fst (stack : Stack) : stack.enter.1 = ⟨stack.nextSerial, stack.depth⟩ := rfl

@[simp] theorem scopes_enter (stack : Stack) :
    stack.enter.2.scopes = stack.scopes ++ [{ handle := stack.enter.1 }] := rfl

@[simp] theorem depth_enter (stack : Stack) : stack.enter.2.depth = stack.depth + 1 := by
  simp [depth]

@[simp] theorem scopes_put (stack : Stack) (handle : Handle) (scope : Scope) :
    (stack.put handle scope).scopes = stack.scopes.set handle.depth scope := rfl

@[simp] theorem depth_put (stack : Stack) (handle : Handle) (scope : Scope) :
    (stack.put handle scope).depth = stack.depth := by
  simp [depth]

end Stack

end Scoping
