import Scoping.Proofs.Lifecycle
import Scoping.Proofs.Registry

namespace Scoping

/-- The symbols of a scope as the history would have recorded them. -/
def Scope.acceptances (scope : Scope) : List Acceptance :=
  scope.symbols.items.mapIdx fun position symbol =>
    ⟨scope.handle, symbol.toDeclaration, scope.ref ⟨position⟩⟩

namespace Scope

variable {limits : Limits} {scope : Scope}

theorem mem_acceptances {acceptance : Acceptance} :
    acceptance ∈ scope.acceptances ↔
      ∃ id symbol, scope.get? id = some symbol ∧
        acceptance = ⟨scope.handle, symbol.toDeclaration, scope.ref id⟩ := by
  rw [acceptances, List.mem_mapIdx]
  constructor
  · rintro ⟨position, hlt, rfl⟩
    exact ⟨⟨position⟩, scope.symbols.items[position], List.getElem?_eq_getElem hlt, rfl⟩
  · rintro ⟨⟨position⟩, symbol, hsymbol, rfl⟩
    obtain ⟨hlt, rfl⟩ := List.getElem?_eq_some_iff.mp hsymbol
    exact ⟨position, hlt, rfl⟩

theorem acceptances_add (declaration : Declaration) (address : Address) :
    (scope.add declaration address).2.acceptances =
      scope.acceptances ++ [⟨scope.handle, declaration, scope.ref ⟨scope.size⟩⟩] := by
  rw [acceptances, items_add, List.mapIdx_concat]
  rfl

theorem acceptances_of_takeAddress {after : Scope} {address : Address}
    (h : scope.takeAddress = .ok (address, after)) : after.acceptances = scope.acceptances := by
  obtain ⟨_, _, rfl⟩ := takeAddress_eq_ok_iff.mp h
  rfl

theorem acceptances_of_declare {after : Scope} {declaration : Declaration} {symbol : SymbolRef}
    (h : scope.declare declaration = .ok (symbol, after)) :
    after.acceptances = scope.acceptances ++ [⟨scope.handle, declaration, symbol⟩] := by
  obtain ⟨_, _, rfl, rfl⟩ := declare_eq_ok_iff.mp h
  rw [acceptances_add]
  rfl

/-- A look-up finds the symbol of the one declaration of the name that was accepted. -/
theorem Sound.lookupRef?_eq_some_iff (sound : scope.Sound limits) {name : String}
    {symbol : SymbolRef} :
    scope.lookupRef? name = some symbol ↔
      ∃ acceptance ∈ scope.acceptances,
        acceptance.declaration.name = name ∧ acceptance.symbol = symbol := by
  rw [lookupRef?, Option.map_eq_some_iff]
  constructor
  · rintro ⟨id, hid, rfl⟩
    obtain ⟨found, hfound, hname⟩ := sound.get?_of_lookup? hid
    exact ⟨_, mem_acceptances.mpr ⟨id, found, hfound, rfl⟩, hname, rfl⟩
  · rintro ⟨acceptance, hmem, hname, rfl⟩
    obtain ⟨id, found, hfound, rfl⟩ := mem_acceptances.mp hmem
    exact ⟨id, (sound.lookup?_eq_some_iff name id).mpr ⟨found, hfound, hname⟩, rfl⟩

end Scope

theorem History.acceptedIn_concat (history : History) (event : Event) (scope : Handle) :
    History.acceptedIn (history ++ [event]) scope =
      history.acceptedIn scope ++
        event.acceptance?.toList.filter fun acceptance => acceptance.scope = scope := by
  simp [acceptedIn]

/-- The open scopes hold what the history says they accepted. -/
structure Recorded (history : History) (stack : Stack) : Prop where
  scope_opened : ∀ acceptance ∈ history.acceptances, acceptance.scope ∈ history.opened
  acceptedIn_eq : ∀ scope ∈ stack.scopes, history.acceptedIn scope.handle = scope.acceptances

namespace Recorded

variable {history : History} {stack after : Stack} {event : Event}

theorem start (limits : Limits) : Recorded [] { limits } where
  scope_opened acceptance h := by simp [History.acceptances] at h
  acceptedIn_eq scope h := by simp at h

theorem acceptedIn_eq_nil (recorded : Recorded history stack) {handle : Handle}
    (h : handle ∉ history.opened) : history.acceptedIn handle = [] := by
  rw [List.eq_nil_iff_forall_not_mem]
  intro acceptance hmem
  obtain ⟨hacceptance, rfl⟩ := History.mem_acceptedIn.mp hmem
  exact h (recorded.scope_opened acceptance hacceptance)

theorem same (recorded : Recorded history stack) (nothing : event.acceptance? = none)
    (scopes : ∀ scope ∈ after.scopes,
      history.acceptedIn scope.handle = scope.acceptances) :
    Recorded (history ++ [event]) after := by
  refine ⟨?_, ?_⟩
  · intro acceptance h
    rw [History.acceptances_concat, nothing] at h
    rw [History.opened_concat, List.mem_append]
    exact Or.inl (recorded.scope_opened acceptance (by simpa using h))
  · intro scope h
    rw [History.acceptedIn_concat, nothing, scopes scope h]
    exact List.append_nil _

theorem enter (recorded : Recorded history stack) (accounted : Accounted history stack) :
    Recorded (history ++ [⟨.enter, .opened stack.enter.1⟩]) stack.enter.2 := by
  apply recorded.same rfl
  intro scope h
  rw [Stack.scopes_enter, List.mem_append, List.mem_singleton] at h
  rcases h with h | rfl
  · exact recorded.acceptedIn_eq scope h
  · exact recorded.acceptedIn_eq_nil accounted.fresh

theorem takeAddress (recorded : Recorded history stack) (aligned : stack.Aligned)
    {handle : Handle} {scope changed : Scope} {address : Address}
    (found : stack.scope? handle = some scope)
    (taken : scope.takeAddress = .ok (address, changed)) :
    Recorded (history ++ [⟨.takeAddress handle, .address address⟩])
      (stack.put handle changed) := by
  have hhandle := Scope.handle_of_takeAddress taken
  have hsame := hhandle.trans (Stack.handle_of_scope? found)
  apply recorded.same rfl
  intro other hother
  rcases (aligned.mem_scopes_put found hsame).mp hother with rfl | ⟨hmem, _⟩
  · rw [hhandle, Scope.acceptances_of_takeAddress taken]
    exact recorded.acceptedIn_eq scope (Stack.mem_of_scope? found)
  · exact recorded.acceptedIn_eq other hmem

theorem declare (recorded : Recorded history stack) (accounted : Accounted history stack)
    (aligned : stack.Aligned) {call : Call} {handle : Handle} {declaration : Declaration}
    {scope changed : Scope} {symbol : SymbolRef}
    (asks : call.declaration? = some (handle, declaration))
    (found : stack.scope? handle = some scope)
    (declared : scope.declare declaration = .ok (symbol, changed)) :
    Recorded (history ++ [⟨call, .declared symbol⟩]) (stack.put handle changed) := by
  have hevent := Event.acceptance?_declared asks symbol
  have hscope := Stack.handle_of_scope? found
  have hmem := Stack.mem_of_scope? found
  have hhandle := Scope.handle_of_declare declared
  refine ⟨?_, ?_⟩
  · intro acceptance h
    rw [History.acceptances_concat, hevent, List.mem_append] at h
    rw [History.opened_concat, List.mem_append]
    rcases h with h | h
    · exact Or.inl (recorded.scope_opened acceptance h)
    · have hacceptance : acceptance = ⟨handle, declaration, symbol⟩ := by simpa using h
      have hopen := Stack.mem_handles.mpr ⟨scope, hmem, hscope⟩
      rw [hacceptance]
      exact Or.inl (accounted.mem_handles_iff.mp hopen).1
  · intro other hother
    rw [History.acceptedIn_concat, hevent]
    rcases (aligned.mem_scopes_put found (hhandle.trans hscope)).mp hother with
      rfl | ⟨hother, hne⟩
    · rw [hhandle, Scope.acceptances_of_declare declared, recorded.acceptedIn_eq scope hmem,
        hscope]
      simp
    · rw [recorded.acceptedIn_eq other hother]
      simp [Ne.symm hne]

theorem step (recorded : Recorded history stack) (accounted : Accounted history stack)
    (aligned : stack.Aligned) (step : Step stack event after) :
    Recorded (history ++ [event]) after := by
  cases step with
  | enter => exact recorded.enter accounted
  | exit _ =>
    apply recorded.same rfl
    intro scope h
    exact recorded.acceptedIn_eq scope (List.dropLast_subset _ h)
  | declare asks found _ declared => exact recorded.declare accounted aligned asks found declared
  | takeAddress found taken => exact recorded.takeAddress aligned found taken
  | idle idle => exact recorded.same (Event.acceptance?_of_isIdle idle) recorded.acceptedIn_eq

end Recorded

theorem Call.recorded (limits : Limits) (calls : List Call) (few : calls.count .enter < 2 ^ 64) :
    Recorded (history { limits } calls) (performAll { limits } calls) := by
  refine (bounded_run_induction (Recorded.start limits) ?_ calls few).2
  intro _ _ _ _ accounted aligned recorded step
  exact recorded.step accounted aligned step

end Scoping
