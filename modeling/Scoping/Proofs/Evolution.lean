import Scoping.Proofs.Positions

namespace Scoping

def Event.changed? (event : Event) : Option Handle :=
  match event.call, event.answer with
  | .declare scope _, .declared _ => some scope
  | .declareReporting scope _, .declared _ => some scope
  | .takeAddress scope, .address _ => some scope
  | _, _ => none

def History.changed (history : History) : List Handle := history.filterMap Event.changed?

theorem History.changed_concat (history : History) (event : Event) :
    History.changed (history ++ [event]) = history.changed ++ event.changed?.toList := by
  simp only [changed, List.filterMap_append, List.filterMap_cons, List.filterMap_nil]
  cases event.changed? <;> rfl

theorem Event.changed?_of_isIdle {event : Event} (h : event.answer.isIdle = true) :
    event.changed? = none := by
  obtain ⟨call, answer⟩ := event
  cases answer <;> simp_all [Answer.isIdle, changed?]

theorem Event.changed?_declared {call : Call} {handle : Handle} {declaration : Declaration}
    (h : call.declaration? = some (handle, declaration)) (symbol : SymbolRef) :
    changed? ⟨call, .declared symbol⟩ = some handle := by
  cases call <;> simp_all [Call.declaration?, changed?]

namespace Scope

variable {scope next : Scope} {declaration : Declaration} {symbol : SymbolRef}

def entry (scope : Scope) (declaration : Declaration) : Symbol :=
  { declaration with index := scope.size, address := scope.nextAddress }

theorem get?_declared (h : scope.declare declaration = .ok (symbol, next)) :
    next.get? symbol.symbol = some (scope.entry declaration) := by
  obtain ⟨_, _, rfl, rfl⟩ := declare_eq_ok_iff.mp h
  rw [get?_add, size_afterAddress]
  exact if_pos rfl

theorem scope_of_declare (h : scope.declare declaration = .ok (symbol, next)) :
    symbol.scope = scope.handle := by
  obtain ⟨_, _, rfl, _⟩ := declare_eq_ok_iff.mp h
  rfl

end Scope

/-- Everything that an event can do to an open scope that it does not close. -/
inductive Scope.Evolves (scope : Scope) : Event → Scope → Prop
  | declare {call : Call} {declaration : Declaration} {symbol : SymbolRef} {next : Scope}
      (asks : call.declaration? = some (scope.handle, declaration))
      (declared : scope.declare declaration = .ok (symbol, next)) :
      Evolves scope ⟨call, .declared symbol⟩ next
  | takeAddress {address : Address} {next : Scope}
      (taken : scope.takeAddress = .ok (address, next)) :
      Evolves scope ⟨.takeAddress scope.handle, .address address⟩ next
  | same {event : Event} (elsewhere : event.changed? ≠ some scope.handle) :
      Evolves scope event scope

namespace Stack

variable {stack after : Stack} {handle other : Handle} {scope changed : Scope} {event : Event}

theorem depth_lt_of_scope? (h : stack.scope? handle = some scope) :
    handle.depth < stack.scopes.length :=
  (List.getElem?_eq_some_iff.mp (scope?_eq_some_iff.mp h).1).1

theorem scope?_enter (found : stack.scope? handle = some scope) :
    stack.enter.2.scope? handle = some scope := by
  obtain ⟨hposition, hhandle⟩ := scope?_eq_some_iff.mp found
  rw [scope?_eq_some_iff, scopes_enter, List.getElem?_append_left (depth_lt_of_scope? found)]
  exact ⟨hposition, hhandle⟩

theorem scope?_enter_fst (stack : Stack) :
    stack.enter.2.scope? stack.enter.1 = some { handle := stack.enter.1 } := by
  rw [scope?_eq_some_iff, scopes_enter]
  exact ⟨List.getElem?_concat_length, rfl⟩

theorem scope?_dropLast (found : stack.scope? handle = some scope)
    (innermost : stack.innermost = .ok other) (hne : other ≠ handle) :
    Stack.scope? { stack with scopes := stack.scopes.dropLast } handle = some scope := by
  obtain ⟨hposition, hhandle⟩ := scope?_eq_some_iff.mp found
  have hlt := depth_lt_of_scope? found
  -- The last scope is another one, so it does not stand at the depth of the handle.
  have hlast : handle.depth ≠ stack.scopes.length - 1 := by
    intro hdepth
    rw [innermost_eq_ok_iff, List.getLast?_eq_getElem?, ← hdepth, hposition, Option.map_some,
      hhandle, Option.some.injEq] at innermost
    exact hne innermost.symm
  rw [scope?_eq_some_iff, List.getElem?_dropLast, if_pos (by omega)]
  exact ⟨hposition, hhandle⟩

theorem scope?_put_of_ne (found : stack.scope? other = some changed) {next : Scope}
    (same : next.handle = other) (hne : handle ≠ other) :
    (stack.put other next).scope? handle = stack.scope? handle := by
  rw [scope?_put found same, if_neg hne]

theorem scope?_put_self (found : stack.scope? handle = some scope) {next : Scope}
    (same : next.handle = handle) : (stack.put handle next).scope? handle = some next := by
  rw [scope?_put found same, if_pos rfl]

/-- A step that does not close an open scope leaves it open, and does to it no more than its own
declarations and addresses ask for. -/
theorem evolves_of_step (step : Step stack event after) (found : stack.scope? handle = some scope)
    (stays : event.closed? ≠ some handle) :
    ∃ next, after.scope? handle = some next ∧ scope.Evolves event next := by
  have hhandle := handle_of_scope? found
  cases step with
  | enter =>
    refine ⟨scope, scope?_enter found, .same ?_⟩
    simp [Event.changed?]
  | exit innermost =>
    refine ⟨scope, scope?_dropLast found innermost ?_, .same ?_⟩
    · rintro rfl
      exact stays rfl
    · simp [Event.changed?]
  | @declare call target declaration asked next symbol asks foundAsked admits declared =>
    have hsame := (Scope.handle_of_declare declared).trans (handle_of_scope? foundAsked)
    by_cases htarget : handle = target
    · subst htarget
      obtain rfl := Option.some.inj (found.symm.trans foundAsked)
      refine ⟨next, scope?_put_self found hsame, .declare ?_ declared⟩
      rw [asks, hhandle]
    · refine ⟨scope, ?_, .same ?_⟩
      · rw [scope?_put_of_ne foundAsked hsame htarget, found]
      · rw [Event.changed?_declared asks, hhandle]
        simpa using Ne.symm htarget
  | @takeAddress target asked next address foundAsked taken =>
    have hsame := (Scope.handle_of_takeAddress taken).trans (handle_of_scope? foundAsked)
    by_cases htarget : handle = target
    · subst htarget
      obtain rfl := Option.some.inj (found.symm.trans foundAsked)
      refine ⟨next, scope?_put_self found hsame, ?_⟩
      rw [← hhandle]
      exact .takeAddress taken
    · refine ⟨scope, ?_, .same ?_⟩
      · rw [scope?_put_of_ne foundAsked hsame htarget, found]
      · rw [hhandle]
        simpa [Event.changed?] using Ne.symm htarget
  | idle idle =>
    refine ⟨scope, found, .same ?_⟩
    rw [Event.changed?_of_isIdle idle]
    simp

end Stack

namespace Call

theorem performAll_concat (stack : Stack) (calls : List Call) (call : Call) :
    performAll stack (calls ++ [call]) = (perform (performAll stack calls) call).2 := by
  rw [performAll_append]
  rfl

theorem history_concat (stack : Stack) (calls : List Call) (call : Call) :
    history stack (calls ++ [call]) =
      history stack calls ++ [⟨call, (perform (performAll stack calls) call).1⟩] :=
  history_append stack calls [call]

/-- The induction over a run in which a scope stays open: what holds of the scope at first and is
kept by all that can happen to it holds of it at the end, where it is still open. -/
theorem scope_induction {P : List Call → Scope → Prop} {start : Stack} {handle : Handle}
    {scope : Scope} (found : start.scope? handle = some scope) (base : P [] scope)
    (step : ∀ calls call current next, P calls current →
      (performAll start calls).scope? handle = some current →
      (performAll start (calls ++ [call])).scope? handle = some next →
      current.Evolves ⟨call, (perform (performAll start calls) call).1⟩ next →
      P (calls ++ [call]) next)
    (calls : List Call) (stays : handle ∉ (history start calls).closed) :
    ∃ next, (performAll start calls).scope? handle = some next ∧ P calls next := by
  induction calls using List.reverseRecOn with
  | nil => exact ⟨scope, found, base⟩
  | append_singleton calls call ih =>
    rw [history_concat, History.closed_concat, List.mem_append, not_or] at stays
    obtain ⟨before, now⟩ := stays
    obtain ⟨current, hcurrent, holds⟩ := ih before
    have hcloses : Event.closed? ⟨call, (perform (performAll start calls) call).1⟩ ≠
        some handle := by
      intro hclosed
      rw [hclosed] at now
      simp at now
    obtain ⟨next, hnext, evolves⟩ :=
      Stack.evolves_of_step (step_perform _ call) hcurrent hcloses
    rw [← performAll_concat] at hnext
    exact ⟨next, hnext, step calls call current next holds hcurrent hnext evolves⟩

end Call

end Scoping
