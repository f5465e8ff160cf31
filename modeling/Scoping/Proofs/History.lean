import Mathlib.Data.List.Induction
import Scoping.Call
import Scoping.Proofs.Operations

namespace Scoping

structure Event where
  call : Call
  answer : Answer
  deriving DecidableEq, Repr

/-- The scope and the declaration of a call that declares, whether or not it reports. -/
def Call.declaration? : Call → Option (Handle × Declaration)
  | declare scope declaration | declareReporting scope declaration => some (scope, declaration)
  | _ => none

/-- The answers of calls that leave the stack as it is. -/
def Answer.isIdle : Answer → Bool
  | resolved _ | reported _ | refused _ => true
  | opened _ | closed | declared _ | address _ => false

/-- A declaration that was accepted, with the scope that was asked and the symbol it answered. -/
structure Acceptance where
  scope : Handle
  declaration : Declaration
  symbol : SymbolRef
  deriving DecidableEq, Repr

namespace Event

def opened? (event : Event) : Option Handle :=
  match event.answer with
  | .opened scope => some scope
  | _ => none

def closed? (event : Event) : Option Handle :=
  match event.call, event.answer with
  | .exit scope, .closed => some scope
  | _, _ => none

def acceptance? (event : Event) : Option Acceptance :=
  match event.call.declaration?, event.answer with
  | some (scope, declaration), .declared symbol => some ⟨scope, declaration, symbol⟩
  | _, _ => none

variable {event : Event}

theorem opened?_of_isIdle (h : event.answer.isIdle = true) : event.opened? = none := by
  obtain ⟨call, answer⟩ := event
  cases answer <;> simp_all [Answer.isIdle, opened?]

theorem closed?_of_isIdle (h : event.answer.isIdle = true) : event.closed? = none := by
  obtain ⟨call, answer⟩ := event
  cases answer <;> simp_all [Answer.isIdle, closed?]

theorem acceptance?_of_isIdle (h : event.answer.isIdle = true) : event.acceptance? = none := by
  obtain ⟨call, answer⟩ := event
  cases answer <;> simp_all [Answer.isIdle, acceptance?]

theorem closed?_declared (call : Call) (symbol : SymbolRef) :
    closed? ⟨call, .declared symbol⟩ = none := by
  cases call <;> rfl

theorem acceptance?_declared {call : Call} {scope : Handle} {declaration : Declaration}
    (h : call.declaration? = some (scope, declaration)) (symbol : SymbolRef) :
    acceptance? ⟨call, .declared symbol⟩ = some ⟨scope, declaration, symbol⟩ := by
  simp [acceptance?, h]

end Event

abbrev History := List Event

namespace History

def opened (history : History) : List Handle := history.filterMap Event.opened?

def closed (history : History) : List Handle := history.filterMap Event.closed?

/-- The handles that were handed out and not closed since, in order of opening. -/
def stillOpen (history : History) : List Handle :=
  (opened history).filter fun handle => handle ∉ closed history

def acceptances (history : History) : List Acceptance := history.filterMap Event.acceptance?

def acceptedIn (history : History) (scope : Handle) : List Acceptance :=
  (acceptances history).filter fun acceptance => acceptance.scope = scope

theorem mem_stillOpen {history : History} {handle : Handle} :
    handle ∈ stillOpen history ↔ handle ∈ opened history ∧ handle ∉ closed history := by
  simp [stillOpen]

theorem mem_acceptedIn {history : History} {scope : Handle} {acceptance : Acceptance} :
    acceptance ∈ acceptedIn history scope ↔
      acceptance ∈ acceptances history ∧ acceptance.scope = scope := by
  simp [acceptedIn]

theorem opened_append (before after : History) :
    opened (before ++ after) = opened before ++ opened after :=
  List.filterMap_append

theorem closed_append (before after : History) :
    closed (before ++ after) = closed before ++ closed after :=
  List.filterMap_append

@[simp] theorem opened_concat (history : History) (event : Event) :
    opened (history ++ [event]) = opened history ++ event.opened?.toList := by
  simp only [opened, List.filterMap_append, List.filterMap_cons, List.filterMap_nil]
  cases event.opened? <;> rfl

@[simp] theorem closed_concat (history : History) (event : Event) :
    closed (history ++ [event]) = closed history ++ event.closed?.toList := by
  simp only [closed, List.filterMap_append, List.filterMap_cons, List.filterMap_nil]
  cases event.closed? <;> rfl

@[simp] theorem acceptances_concat (history : History) (event : Event) :
    acceptances (history ++ [event]) = acceptances history ++ event.acceptance?.toList := by
  simp only [acceptances, List.filterMap_append, List.filterMap_cons, List.filterMap_nil]
  cases event.acceptance? <;> rfl

end History

namespace History

variable {history : History} {event : Event}

theorem stillOpen_concat_of_closed {handle : Handle} (opened : event.opened? = none)
    (closed : event.closed? = some handle) :
    stillOpen (history ++ [event]) = (stillOpen history).filter fun other => other ≠ handle := by
  rw [stillOpen, stillOpen, List.filter_filter]
  simp only [opened_concat, closed_concat, opened, closed, Option.toList_none, List.append_nil,
    Option.toList_some]
  apply List.filter_congr
  intro other _
  simp [and_comm]

theorem stillOpen_concat_of_none (opened : event.opened? = none) (closed : event.closed? = none) :
    stillOpen (history ++ [event]) = stillOpen history := by
  simp only [stillOpen, opened_concat, closed_concat, opened, closed, Option.toList_none,
    List.append_nil]

end History

/-- Everything that a call can do to a stack. -/
inductive Step (stack : Stack) : Event → Stack → Prop
  | enter : Step stack ⟨.enter, .opened stack.enter.1⟩ stack.enter.2
  | exit {handle : Handle} (innermost : stack.innermost = .ok handle) :
      Step stack ⟨.exit handle, .closed⟩ { stack with scopes := stack.scopes.dropLast }
  | declare {call : Call} {handle : Handle} {declaration : Declaration} {scope after : Scope}
      {symbol : SymbolRef} (asks : call.declaration? = some (handle, declaration))
      (found : stack.scope? handle = some scope) (admits : stack.limits.Admits declaration)
      (declared : scope.declare declaration = .ok (symbol, after)) :
      Step stack ⟨call, .declared symbol⟩ (stack.put handle after)
  | takeAddress {handle : Handle} {scope after : Scope} {address : Address}
      (found : stack.scope? handle = some scope)
      (taken : scope.takeAddress = .ok (address, after)) :
      Step stack ⟨.takeAddress handle, .address address⟩ (stack.put handle after)
  | idle {event : Event} (idle : event.answer.isIdle = true) : Step stack event stack

namespace Call

def history (stack : Stack) : List Call → History
  | [] => []
  | call :: later => ⟨call, (perform stack call).1⟩ :: history (perform stack call).2 later

theorem history_append (stack : Stack) (before after : List Call) :
    history stack (before ++ after) =
      history stack before ++ history (performAll stack before) after := by
  induction before generalizing stack with
  | nil => rfl
  | cons call before ih => simp [history, ih]

section Declaring

variable {call : Call} {stack : Stack} {handle : Handle} {declaration : Declaration}

/-- Whether or not it reports, a call that declares is answered with the symbol. -/
theorem perform_of_declared {symbol : SymbolRef} {after : Stack}
    (asks : call.declaration? = some (handle, declaration))
    (declared : stack.declare handle declaration = .ok (symbol, after)) :
    call.perform stack = (.declared symbol, after) := by
  cases call <;> simp_all [declaration?, perform_declare, perform_declareReporting]

/-- A structural fault is never only reported. -/
theorem perform_of_structural {fault : Fault}
    (asks : call.declaration? = some (handle, declaration))
    (refused : stack.declare handle declaration = .error fault)
    (structural : fault.isStructural = true) : call.perform stack = (.refused fault, stack) := by
  cases call <;> simp_all [declaration?, perform_declare, perform_declareReporting]

end Declaring

theorem step_perform (stack : Stack) (call : Call) :
    Step stack ⟨call, (perform stack call).1⟩ (perform stack call).2 := by
  cases call with
  | enter => exact .enter
  | exit handle =>
    rw [perform_exit]
    split
    · next after h =>
      obtain ⟨hinnermost, rfl⟩ := Stack.exit_eq_ok_iff.mp h
      exact .exit hinnermost
    · exact .idle rfl
  | declare handle declaration =>
    rw [perform_declare]
    split
    · next symbol after h =>
      obtain ⟨scope, scope', hfound, hadmits, hdeclared, rfl⟩ := Stack.declare_eq_ok_iff.mp h
      exact .declare rfl hfound hadmits hdeclared
    · exact .idle rfl
  | declareReporting handle declaration =>
    rw [perform_declareReporting]
    split
    · next symbol after h =>
      obtain ⟨scope, scope', hfound, hadmits, hdeclared, rfl⟩ := Stack.declare_eq_ok_iff.mp h
      exact .declare rfl hfound hadmits hdeclared
    · next fault h =>
      -- Reported or refused, the declaration changes nothing.
      refine .idle ?_
      dsimp only
      split <;> rfl
  | takeAddress handle =>
    rw [perform_takeAddress]
    split
    · next address after h =>
      obtain ⟨scope, scope', hfound, htaken, rfl⟩ := Stack.takeAddress_eq_ok_iff.mp h
      exact .takeAddress hfound htaken
    · exact .idle rfl
  | resolve name => exact .idle rfl
  | resolveReporting name line =>
    simp only [perform]
    split
    · exact .idle rfl
    · exact .idle rfl

/-- What holds at the start and is kept by every step holds after every run. -/
theorem run_induction {P : History → Stack → Prop} {start : Stack} (base : P [] start)
    (step : ∀ history stack event after, P history stack → Step stack event after →
      P (history ++ [event]) after) (calls : List Call) :
    P (history start calls) (performAll start calls) := by
  induction calls using List.reverseRecOn with
  | nil => exact base
  | append_singleton calls call ih =>
    rw [history_append, performAll_append]
    exact step _ _ _ _ ih (step_perform _ _)

end Call

end Scoping
