import Scoping.Proofs.History

namespace Scoping

namespace Scope

variable {scope after : Scope}

theorem handle_of_takeAddress {address : Address} (h : scope.takeAddress = .ok (address, after)) :
    after.handle = scope.handle := by
  obtain ⟨_, _, rfl⟩ := takeAddress_eq_ok_iff.mp h
  rfl

theorem handle_of_declare {declaration : Declaration} {symbol : SymbolRef}
    (h : scope.declare declaration = .ok (symbol, after)) : after.handle = scope.handle := by
  obtain ⟨_, _, _, rfl⟩ := declare_eq_ok_iff.mp h
  rfl

end Scope

namespace Stack

variable {stack after : Stack} {handle other : Handle} {scope changed : Scope}

/-- Every open scope stands at the depth that its handle names. -/
def Aligned (stack : Stack) : Prop :=
  ∀ (position : Nat) (scope : Scope),
    stack.scopes[position]? = some scope → scope.handle.depth = position

theorem handle_of_scope? (h : stack.scope? handle = some scope) : scope.handle = handle :=
  (scope?_eq_some_iff.mp h).2

theorem mem_of_scope? (h : stack.scope? handle = some scope) : scope ∈ stack.scopes :=
  List.mem_of_getElem? (scope?_eq_some_iff.mp h).1

theorem mem_handles : handle ∈ stack.handles ↔ ∃ scope ∈ stack.scopes, scope.handle = handle := by
  simp [handles]

/-- Looking at one position finds what a search of the whole stack finds. -/
theorem Aligned.scope?_eq_some_iff_mem (aligned : stack.Aligned) :
    stack.scope? handle = some scope ↔ scope ∈ stack.scopes ∧ scope.handle = handle := by
  constructor
  · intro h
    exact ⟨mem_of_scope? h, handle_of_scope? h⟩
  · rintro ⟨hmem, rfl⟩
    obtain ⟨position, hposition⟩ := List.mem_iff_getElem?.mp hmem
    have hdepth := aligned position scope hposition
    exact scope?_eq_some_iff.mpr ⟨by rw [hdepth]; exact hposition, rfl⟩

theorem Aligned.isOpen_iff (aligned : stack.Aligned) :
    stack.isOpen handle = true ↔ handle ∈ stack.handles := by
  rw [isOpen, Option.isSome_iff_exists, mem_handles]
  simp only [aligned.scope?_eq_some_iff_mem]

theorem Aligned.depths (aligned : stack.Aligned) :
    stack.scopes.map (fun scope => scope.handle.depth) = List.range stack.depth := by
  apply List.ext_getElem
  · simp [depth]
  · intro position h _
    have hlt : position < stack.scopes.length := by simpa using h
    simpa using aligned position _ (List.getElem?_eq_getElem hlt)

theorem map_handle_put (found : stack.scope? handle = some scope)
    (same : changed.handle = handle) :
    (stack.put handle changed).scopes.map Scope.handle = stack.scopes.map Scope.handle := by
  obtain ⟨hposition, hhandle⟩ := scope?_eq_some_iff.mp found
  apply List.ext_getElem?
  intro position
  rw [scopes_put, List.map_set, List.getElem?_set]
  split
  · next h =>
    subst h
    have hlt : handle.depth < stack.scopes.length := (List.getElem?_eq_some_iff.mp hposition).1
    rw [if_pos (by simpa using hlt), List.getElem?_map, hposition, Option.map_some, same, hhandle]
  · rfl

theorem getElem?_scopes_put_self (found : stack.scope? handle = some scope) :
    (stack.put handle changed).scopes[handle.depth]? = some changed := by
  obtain ⟨hlt, _⟩ := List.getElem?_eq_some_iff.mp (scope?_eq_some_iff.mp found).1
  rw [scopes_put, List.getElem?_set_self hlt]

theorem scope?_put (found : stack.scope? handle = some scope) (same : changed.handle = handle) :
    (stack.put handle changed).scope? other =
      if other = handle then some changed else stack.scope? other := by
  have hself : (stack.put handle changed).scopes[handle.depth]? = some changed :=
    getElem?_scopes_put_self found
  split
  · next h =>
    subst h
    exact scope?_eq_some_iff.mpr ⟨hself, same⟩
  · next hne =>
    obtain ⟨hposition, hhandle⟩ := scope?_eq_some_iff.mp found
    by_cases hdepth : other.depth = handle.depth
    · -- The position is looked at, but neither the old nor the new scope has the handle.
      have hchanged : changed.handle ≠ other := by
        rw [same]
        exact Ne.symm hne
      have hscope : scope.handle ≠ other := by
        rw [hhandle]
        exact Ne.symm hne
      rw [scope?, scope?, hdepth, hself, hposition,
        Option.filter_some_neg (by simpa using hchanged),
        Option.filter_some_neg (by simpa using hscope)]
    · rw [scope?, scope?, scopes_put, List.getElem?_set_ne (Ne.symm hdepth)]

theorem Aligned.enter (aligned : stack.Aligned) : stack.enter.2.Aligned := by
  intro position scope h
  rw [scopes_enter] at h
  rcases Nat.lt_or_ge position stack.scopes.length with hlt | hge
  · rw [List.getElem?_append_left hlt] at h
    exact aligned position scope h
  · rw [List.getElem?_append_right hge] at h
    obtain ⟨hlast, rfl⟩ := List.getElem?_eq_some_iff.mp h
    have : position = stack.scopes.length := by
      simp only [List.length_singleton] at hlast
      omega
    simp [this, depth]

theorem Aligned.dropLast (aligned : stack.Aligned) :
    Aligned { stack with scopes := stack.scopes.dropLast } := by
  intro position scope h
  rw [List.getElem?_dropLast] at h
  split at h
  · exact aligned position scope h
  · simp at h

theorem Aligned.put (aligned : stack.Aligned) (found : stack.scope? handle = some scope)
    (same : changed.handle = handle) : (stack.put handle changed).Aligned := by
  intro position other h
  have hhandles := congrArg (fun handles => handles[position]?) (map_handle_put found same)
  simp only [List.getElem?_map, h, Option.map_some] at hhandles
  obtain ⟨before, hbefore, heq⟩ := Option.map_eq_some_iff.mp hhandles.symm
  rw [← heq]
  exact aligned position before hbefore

/-- In an aligned stack the scopes after a replacement are the new one and those with another
handle. -/
theorem Aligned.mem_scopes_put (aligned : stack.Aligned)
    (found : stack.scope? handle = some scope) (same : changed.handle = handle) {other : Scope} :
    other ∈ (stack.put handle changed).scopes ↔
      other = changed ∨ other ∈ stack.scopes ∧ other.handle ≠ handle := by
  have hput : (stack.put handle changed).scope? other.handle = some other ↔
      other ∈ (stack.put handle changed).scopes := by
    rw [(aligned.put found same).scope?_eq_some_iff_mem, and_iff_left rfl]
  have hold : stack.scope? other.handle = some other ↔ other ∈ stack.scopes := by
    rw [aligned.scope?_eq_some_iff_mem, and_iff_left rfl]
  rw [← hput, ← hold, scope?_put found same]
  split
  · next h => simp [h, eq_comm]
  · next h =>
    have hne : other ≠ changed := by
      rintro rfl
      exact h same
    simp [h, hne]

theorem Aligned.step {event : Event} (aligned : stack.Aligned) (step : Step stack event after) :
    after.Aligned := by
  cases step with
  | enter => exact aligned.enter
  | exit _ => exact aligned.dropLast
  | declare _ found _ declared =>
    exact aligned.put found ((Scope.handle_of_declare declared).trans (handle_of_scope? found))
  | takeAddress found taken =>
    exact aligned.put found ((Scope.handle_of_takeAddress taken).trans (handle_of_scope? found))
  | idle _ => exact aligned

theorem aligned_performAll (limits : Limits) (calls : List Call) :
    (Call.performAll { limits } calls).Aligned := by
  refine Call.run_induction (P := fun _ stack => stack.Aligned) ?_ ?_ calls
  · intro position scope h
    simp at h
  · intro _ _ _ _ aligned step
    exact aligned.step step

end Stack

end Scoping
