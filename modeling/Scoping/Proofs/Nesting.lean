import Scoping.Proofs.Evolution
import Scoping.Proofs.Lifecycle
import Scoping.Proofs.Registry
import Scoping.Stack.Table

namespace Scoping

theorem Scope.Evolves.eq_of_elsewhere {scope next : Scope} {event : Event}
    (evolves : scope.Evolves event next) (elsewhere : event.changed? ≠ some scope.handle) :
    next = scope := by
  cases evolves with
  | declare asks _ => exact absurd (Event.changed?_declared asks _) elsewhere
  | takeAddress _ => exact absurd rfl elsewhere
  | same _ => rfl

namespace Stack

variable {stack after : Stack} {event : Event} {outer : List Handle} {handle : Handle}

/-- A step that does not close a scope leaves it and those around it open, in the same order. -/
theorem handles_prefix_of_step (step : Step stack event after)
    (around : outer ++ [handle] <+: stack.scopes.map Scope.handle)
    (stays : event.closed? ≠ some handle) :
    outer ++ [handle] <+: after.scopes.map Scope.handle := by
  cases step with
  | enter =>
    rw [scopes_enter, List.map_append]
    exact around.trans (List.prefix_append _ _)
  | exit innermost =>
    obtain ⟨inner, hinner⟩ := around
    rw [innermost_eq_ok_iff, ← List.getLast?_map, ← hinner] at innermost
    rw [List.map_dropLast, ← hinner]
    -- The innermost scope is another one, so it is one of the inner scopes.
    rcases List.eq_nil_or_concat inner with rfl | ⟨front, last, rfl⟩
    · rw [List.append_nil, List.getLast?_concat, Option.some.injEq] at innermost
      exact absurd (congrArg some innermost.symm) stays
    · rw [List.concat_eq_append, ← List.append_assoc, List.dropLast_concat]
      exact List.prefix_append _ _
  | declare _ found _ declared =>
    have hhandle := (Scope.handle_of_declare declared).trans (handle_of_scope? found)
    rw [map_handle_put found hhandle]
    exact around
  | takeAddress found taken =>
    have hhandle := (Scope.handle_of_takeAddress taken).trans (handle_of_scope? found)
    rw [map_handle_put found hhandle]
    exact around
  | idle _ => exact around

/-- The innermost scope stands on all others. -/
theorem Aligned.length_of_innermost (aligned : stack.Aligned)
    (innermost : stack.innermost = .ok handle) : stack.scopes.length = handle.depth + 1 := by
  rw [innermost_eq_ok_iff, List.getLast?_eq_getElem?, Option.map_eq_some_iff] at innermost
  obtain ⟨scope, hscope, rfl⟩ := innermost
  obtain ⟨hlt, _⟩ := List.getElem?_eq_some_iff.mp hscope
  rw [aligned _ scope hscope]
  omega

end Stack

namespace Call

variable {start : Stack} {handle : Handle}

/-- As long as a scope stays open, so do the scopes around it. -/
theorem handles_prefix_performAll {outer : List Handle}
    (around : outer ++ [handle] <+: start.scopes.map Scope.handle) (calls : List Call)
    (stays : handle ∉ (history start calls).closed) :
    outer ++ [handle] <+: (performAll start calls).scopes.map Scope.handle := by
  refine run_induction (P := fun history stack => handle ∉ history.closed →
    outer ++ [handle] <+: stack.scopes.map Scope.handle) (fun _ => around) ?_ calls stays
  intro history stack event after ih step stays
  rw [History.closed_concat, List.mem_append, not_or] at stays
  refine Stack.handles_prefix_of_step step (ih stays.1) ?_
  intro hclosed
  simp [hclosed] at stays

/-- A scope that no call changes from within stays as it is for as long as it is open. -/
theorem scope?_of_unchanged {scope : Scope} (found : start.scope? handle = some scope)
    (calls : List Call) (stays : handle ∉ (history start calls).closed)
    (unchanged : handle ∉ (history start calls).changed) :
    (performAll start calls).scope? handle = some scope := by
  suffices h : ∃ next, (performAll start calls).scope? handle = some next ∧
      (handle ∉ (history start calls).changed → next = scope) by
    obtain ⟨next, hnext, hsame⟩ := h
    rw [hnext, hsame unchanged]
  refine scope_induction (P := fun calls current =>
    handle ∉ (history start calls).changed → current = scope) found (fun _ => rfl) ?_ calls stays
  intro calls call current next ih hcurrent _ evolves hunchanged
  rw [history_concat, History.changed_concat, List.mem_append, not_or] at hunchanged
  rw [← ih hunchanged.1]
  apply evolves.eq_of_elsewhere
  rw [Stack.handle_of_scope? hcurrent]
  intro hchanged
  simp [hchanged] at hunchanged

end Call

/-- A block of a run: the opening of a scope, further calls, and the first closing of that scope. -/
structure Block where
  limits : Limits
  /-- The calls before the block. -/
  before : List Call
  /-- The calls between the opening and the closing. -/
  during : List Call
  /-- The stack behind the block. -/
  after : Stack
  few : (before ++ .enter :: during).count .enter < 2 ^ 64
  stays : (Call.performAll { limits } before).enter.1 ∉
    (Call.history (Call.performAll { limits } before).enter.2 during).closed
  exits : (Call.performAll (Call.performAll { limits } before).enter.2 during).exit
    (Call.performAll { limits } before).enter.1 = .ok after

namespace Block

variable (block : Block)

def outside : Stack := Call.performAll { limits := block.limits } block.before

def handle : Handle := block.outside.enter.1

def history : History := Call.history block.outside.enter.2 block.during

def inside : Stack := Call.performAll block.outside.enter.2 block.during

theorem inside_eq :
    block.inside = Call.performAll { limits := block.limits }
      (block.before ++ .enter :: block.during) := by
  rw [Call.performAll_append]
  rfl

theorem history_eq :
    Call.history { limits := block.limits } (block.before ++ .enter :: block.during) =
      Call.history { limits := block.limits } block.before ++
        ⟨.enter, .opened block.handle⟩ :: block.history := by
  rw [Call.history_append]
  rfl

theorem aligned_outside : block.outside.Aligned := Stack.aligned_performAll _ _

theorem aligned_inside : block.inside.Aligned := by
  rw [inside_eq]
  exact Stack.aligned_performAll _ _

theorem accounted_outside :
    Accounted (Call.history { limits := block.limits } block.before) block.outside := by
  apply Call.accounted
  have few := block.few
  rw [List.count_append] at few
  omega

theorem accounted_inside :
    Accounted (Call.history { limits := block.limits } (block.before ++ .enter :: block.during))
      block.inside := by
  rw [inside_eq]
  exact Call.accounted _ _ block.few

theorem innermost_inside : block.inside.innermost = .ok block.handle :=
  (Stack.exit_eq_ok_iff.mp block.exits).1

theorem after_eq :
    block.after = { block.inside with scopes := block.inside.scopes.dropLast } :=
  (Stack.exit_eq_ok_iff.mp block.exits).2

theorem handles_inside : block.inside.scopes.map Scope.handle =
    block.outside.scopes.map Scope.handle ++ [block.handle] := by
  have haround : block.outside.scopes.map Scope.handle ++ [block.handle] <+:
      block.outside.enter.2.scopes.map Scope.handle := by
    rw [Stack.scopes_enter, List.map_append]
    exact List.prefix_refl _
  have hbelow := Call.handles_prefix_performAll haround block.during block.stays
  have hlength := block.aligned_inside.length_of_innermost block.innermost_inside
  refine (hbelow.eq_of_length ?_).symm
  rw [List.length_append, List.length_map, List.length_map, List.length_singleton]
  exact hlength.symm

theorem handles_after :
    block.after.scopes.map Scope.handle = block.outside.scopes.map Scope.handle := by
  rw [after_eq, List.map_dropLast, handles_inside, List.dropLast_concat]

theorem stays_outside {scope : Scope} (h : scope ∈ block.outside.scopes) :
    scope.handle ∉ block.history.closed := by
  intro hclosed
  have hopen : scope.handle ∈ block.inside.handles := by
    rw [Stack.handles, List.map_reverse, List.mem_reverse, handles_inside]
    exact List.mem_append_left _ (List.mem_map_of_mem h)
  apply (block.accounted_inside.mem_handles_iff.mp hopen).2
  rw [history_eq, List.append_cons, History.closed_append, List.mem_append]
  exact Or.inr hclosed

/-- A scope around a block that no call of the block changed stands where it stood, unchanged. -/
theorem getElem?_after {position : Nat} {scope : Scope}
    (h : block.outside.scopes[position]? = some scope)
    (unchanged : scope.handle ∉ block.history.changed) :
    block.after.scopes[position]? = some scope := by
  have hmem := List.mem_of_getElem? h
  have hdepth := block.aligned_outside position scope h
  have hfound := block.aligned_outside.scope?_eq_some_iff_mem.mpr ⟨hmem, rfl⟩
  have hkept := Call.scope?_of_unchanged (Stack.scope?_enter hfound) block.during
    (block.stays_outside hmem) unchanged
  have hne : block.handle ≠ scope.handle := by
    intro heq
    have hsame : block.outside.scopes.length = scope.handle.depth := congrArg Handle.depth heq
    obtain ⟨hlt, _⟩ := List.getElem?_eq_some_iff.mp h
    omega
  have hafter := Stack.scope?_dropLast hkept block.innermost_inside hne
  rw [Stack.scope?_eq_some_iff, hdepth] at hafter
  rw [after_eq]
  exact hafter.1

theorem scopes_after
    (unchanged : ∀ handle ∈ block.outside.handles, handle ∉ block.history.changed) :
    block.after.scopes = block.outside.scopes := by
  have hlength := congrArg List.length block.handles_after
  rw [List.length_map, List.length_map] at hlength
  apply List.ext_getElem?
  intro position
  cases h : block.outside.scopes[position]? with
  | none =>
    rw [List.getElem?_eq_none_iff] at h ⊢
    omega
  | some scope =>
    apply block.getElem?_after h
    exact unchanged _ (Stack.mem_handles.mpr ⟨scope, List.mem_of_getElem? h, rfl⟩)

theorem refuses_opened {handle : Handle} (h : handle ∈ block.handle :: block.history.opened) :
    block.after.Refuses handle := by
  have haligned : block.after.Aligned := by
    rw [after_eq]
    exact block.aligned_inside.dropLast
  apply haligned.refuses
  rw [Stack.handles, List.map_reverse, handles_after, ← List.map_reverse]
  intro hopen
  -- No handle is opened twice, and those of the scopes around the block were opened before it.
  have hbefore := (block.accounted_outside.mem_handles_iff.mp hopen).1
  have hnodup := block.accounted_inside.nodup_opened
  rw [history_eq, History.opened_append, List.nodup_append] at hnodup
  exact hnodup.2.2 handle hbefore handle h rfl

theorem nextSerial_after : block.after.nextSerial.toNat =
    block.outside.nextSerial.toNat + (block.during.count .enter + 1) := by
  have hinside := block.accounted_inside.nextSerial_eq
  have houtside := block.accounted_outside.nextSerial_eq
  rw [Call.length_opened_history] at hinside houtside
  rw [after_eq, hinside, houtside, List.count_append, List.count_cons_self]

theorem limits_after : block.after.limits = block.outside.limits := by
  rw [after_eq, inside_eq, (Stack.sound_performAll block.limits _).1]
  exact (Stack.sound_performAll block.limits block.before).1.symm

/-- If no call of a block changed a scope around it, only the serial numbers have moved on. -/
theorem after_eq_outside
    (unchanged : ∀ handle ∈ block.outside.handles, handle ∉ block.history.changed) :
    block.after = { block.outside with nextSerial := block.after.nextSerial } := by
  have hscopes := block.scopes_after unchanged
  have hlimits := block.limits_after
  cases hafter : block.after
  simp_all

end Block

/-- Leaving a block, however much was opened, closed, declared and refused in it: the scopes around
the block are open again as before, in the same order, and those that no call of the block changed
by name are the very same. If there was no such call, every look-up and the dump answer as before;
only the next serial number tells how many scopes the block opened, all of which are closed. -/
theorem leaving_restores (block : Block) :
    block.after.handles = block.outside.handles ∧
    (∀ (position : Nat) (scope : Scope), block.outside.scopes[position]? = some scope →
      scope.handle ∉ block.history.changed → block.after.scopes[position]? = some scope) ∧
    ((∀ handle ∈ block.outside.handles, handle ∉ block.history.changed) →
      block.after = { block.outside with nextSerial := block.after.nextSerial } ∧
      (∀ name, block.after.resolve name = block.outside.resolve name) ∧
      (∀ handle name, block.after.lookupIn handle name = block.outside.lookupIn handle name) ∧
      (∀ handle, block.after.refsIn handle = block.outside.refsIn handle) ∧
      (∀ symbol, block.after.get? symbol = block.outside.get? symbol) ∧
      (∀ handle, (block.after.scope handle).map Scope.nextAddress =
        (block.outside.scope handle).map Scope.nextAddress) ∧
      block.after.dump = block.outside.dump) ∧
    (∀ handle ∈ block.handle :: block.history.opened, block.after.Refuses handle) ∧
    block.after.nextSerial.toNat =
      block.outside.nextSerial.toNat + (block.during.count .enter + 1) := by
  refine ⟨?_, ?_, ?_, ?_, block.nextSerial_after⟩
  · rw [Stack.handles, List.map_reverse, block.handles_after, ← List.map_reverse]
    rfl
  · intro position scope hposition unchanged
    exact block.getElem?_after hposition unchanged
  · intro unchanged
    -- Nothing that is looked up or printed depends on the next serial number.
    have hafter := block.after_eq_outside unchanged
    refine ⟨hafter, ?_, ?_, ?_, ?_, ?_, ?_⟩
    · intro name
      rw [hafter]
      rfl
    · intro handle name
      rw [hafter]
      rfl
    · intro handle
      rw [hafter]
      rfl
    · intro symbol
      rw [hafter]
      rfl
    · intro handle
      rw [hafter]
      rfl
    · rw [hafter]
      rfl
  · intro handle hopened
    exact block.refuses_opened hopened

/-- A name that a block shadows resolves as before once the block is left, although the block opened
two scopes and tried to close one around it. -/
theorem leaving_restores_shadowed_name :
    ∃ block : Block,
      block.before = [.enter, .declare ⟨0, 0⟩ ⟨"x", .int, .var, 1⟩] ∧
      block.during = [.declare ⟨1, 1⟩ ⟨"x", .char, .var, 2⟩, .enter, .takeAddress ⟨2, 2⟩,
        .exit ⟨0, 0⟩, .exit ⟨2, 2⟩] ∧
      block.inside.resolve "x" = some ⟨⟨1, 1⟩, ⟨0⟩⟩ ∧
      block.after.resolve "x" = block.outside.resolve "x" ∧
      block.after.nextSerial.toNat = block.outside.nextSerial.toNat + 2 := by
  let block : Block :=
    { limits := {}
      before := [.enter, .declare ⟨0, 0⟩ ⟨"x", .int, .var, 1⟩]
      during := [.declare ⟨1, 1⟩ ⟨"x", .char, .var, 2⟩, .enter, .takeAddress ⟨2, 2⟩,
        .exit ⟨0, 0⟩, .exit ⟨2, 2⟩]
      after := _
      few := by decide
      stays := by decide
      exits := rfl }
  obtain ⟨_, _, restored, _, serials⟩ := leaving_restores block
  exact ⟨block, rfl, rfl, by decide, (restored (by decide)).2.1 "x", serials⟩

end Scoping
