import Mathlib.Algebra.Group.Nat.Defs
import Scoping.Proofs.Evolution
import Scoping.Proofs.Registry

namespace Scoping

namespace Call

/-- The address that a call hands out in a scope, if it does: the one that it answers, or that of
the symbol that it declares. -/
def address? (handle : Handle) (stack : Stack) (call : Call) : Option Address :=
  if Event.changed? ⟨call, (call.perform stack).1⟩ = some handle then
    match (call.perform stack).1 with
    | .address address => some address
    | .declared symbol => ((call.perform stack).2.get? symbol).map Symbol.address
    | _ => none
  else none

def addresses (handle : Handle) (stack : Stack) : List Call → List Address
  | [] => []
  | call :: later =>
    (address? handle stack call).toList ++ addresses handle (call.perform stack).2 later

theorem addresses_append (handle : Handle) (stack : Stack) (before after : List Call) :
    addresses handle stack (before ++ after) =
      addresses handle stack before ++ addresses handle (performAll stack before) after := by
  induction before generalizing stack with
  | nil => rfl
  | cons call before ih => simp [addresses, ih]

theorem addresses_concat (handle : Handle) (stack : Stack) (calls : List Call) (call : Call) :
    addresses handle stack (calls ++ [call]) =
      addresses handle stack calls ++ (address? handle (performAll stack calls) call).toList := by
  rw [addresses_append]
  simp [addresses]

end Call

namespace Scope

variable {limits : Limits} {scope next : Scope} {event : Event}

/-- A call that an open scope refuses for want of an address only. -/
inductive Owes (limits : Limits) (scope : Scope) : Call → Prop
  | takeAddress : Owes limits scope (.takeAddress scope.handle)
  | declare {call : Call} {declaration : Declaration}
      (asks : call.declaration? = some (scope.handle, declaration))
      (admits : limits.Admits declaration) (fresh : scope.lookup? declaration.name = none) :
      Owes limits scope call

theorem nextAddress_of_declare {declaration : Declaration} {symbol : SymbolRef}
    (h : scope.declare declaration = .ok (symbol, next)) :
    scope.nextAddress ≠ AddressCounter.limit ∧
      next.nextAddress.toNat = scope.nextAddress.toNat + 1 := by
  obtain ⟨_, room, _, rfl⟩ := declare_eq_ok_iff.mp h
  exact ⟨room, toNat_nextAddress_afterAddress room⟩

theorem nextAddress_of_takeAddress {address : Address}
    (h : scope.takeAddress = .ok (address, next)) :
    scope.nextAddress ≠ AddressCounter.limit ∧ address = scope.nextAddress ∧
      next.nextAddress.toNat = scope.nextAddress.toNat + 1 := by
  obtain ⟨room, haddress, rfl⟩ := takeAddress_eq_ok_iff.mp h
  exact ⟨room, haddress, toNat_nextAddress_afterAddress room⟩

theorem Evolves.nextAddress_eq_limit (evolves : scope.Evolves event next)
    (stopped : scope.nextAddress = AddressCounter.limit) :
    next.nextAddress = AddressCounter.limit := by
  cases evolves with
  | declare _ declared => exact absurd stopped (nextAddress_of_declare declared).1
  | takeAddress taken => exact absurd stopped (nextAddress_of_takeAddress taken).1
  | same _ => exact stopped

theorem takeAddress_of_limit (stopped : scope.nextAddress = AddressCounter.limit) :
    scope.takeAddress = .error (.addressesExhausted scope.handle) := by
  rw [takeAddress, tryTakeAddress_of_eq stopped, granted]

theorem declare_of_limit {declaration : Declaration}
    (fresh : scope.lookup? declaration.name = none)
    (stopped : scope.nextAddress = AddressCounter.limit) :
    scope.declare declaration = .error (.addressesExhausted scope.handle) := by
  rw [declare_eq, duplicateFault?_eq_none_of_lookup? fresh, takeAddress_of_limit stopped]

end Scope

namespace Call

variable {start stack : Stack} {handle : Handle} {scope next : Scope} {call : Call}

/-- A step that changes a scope hands out its next address and moves its counter on, any other step
does neither. -/
theorem address?_of_evolves (same : scope.handle = handle)
    (found : (call.perform stack).2.scope? handle = some next)
    (evolves : scope.Evolves ⟨call, (call.perform stack).1⟩ next) :
    (Event.changed? ⟨call, (call.perform stack).1⟩ ≠ some handle ∧
      address? handle stack call = none ∧ next = scope) ∨
    (address? handle stack call = some scope.nextAddress ∧
      next.nextAddress.toNat = scope.nextAddress.toNat + 1) := by
  unfold address?
  generalize (call.perform stack).1 = answer at evolves ⊢
  cases evolves with
  | @declare _ declaration symbol _ asks declared =>
    have hget : (call.perform stack).2.get? symbol = some (scope.entry declaration) := by
      rw [Stack.get?, Scope.scope_of_declare declared, same, found]
      exact Scope.get?_declared declared
    rw [same] at asks
    refine Or.inr ⟨?_, (Scope.nextAddress_of_declare declared).2⟩
    rw [if_pos (Event.changed?_declared asks symbol)]
    simp only [hget, Option.map_some, Scope.entry]
  | @takeAddress address _ taken =>
    obtain ⟨_, haddress, hnext⟩ := Scope.nextAddress_of_takeAddress taken
    refine Or.inr ⟨?_, hnext⟩
    rw [if_pos (by rw [same]; rfl)]
    simp only [haddress]
  | same elsewhere =>
    rw [same] at elsewhere
    exact Or.inl ⟨elsewhere, if_neg elsewhere, rfl⟩

/-- A scope that has handed out nothing hands out its addresses in order, as long as it is open. -/
theorem addresses_eq_range (found : start.scope? handle = some scope)
    (unused : scope.nextAddress = 0) (calls : List Call)
    (stays : handle ∉ (history start calls).closed) :
    ∃ next, (performAll start calls).scope? handle = some next ∧
      (addresses handle start calls).map UInt64.toNat = List.range next.nextAddress.toNat := by
  refine scope_induction (P := fun calls current =>
    (addresses handle start calls).map UInt64.toNat = List.range current.nextAddress.toNat)
    found ?_ ?_ calls stays
  · rw [unused]
    rfl
  · intro calls call current next counted hcurrent hnext evolves
    rw [performAll_concat] at hnext
    rw [addresses_concat, List.map_append, counted]
    rcases address?_of_evolves (Stack.handle_of_scope? hcurrent) hnext evolves with
      ⟨_, hnone, hsame⟩ | ⟨hsome, hmoved⟩
    · rw [hnone, hsame]
      exact List.append_nil _
    · rw [hsome, hmoved, List.range_succ]
      rfl

/-- With its counter stopped, a scope refuses what it owes, and the stack stays as it is. -/
theorem perform_of_limit (found : stack.scope? handle = some scope)
    (owes : scope.Owes stack.limits call) (stopped : scope.nextAddress = AddressCounter.limit) :
    call.perform stack = (.refused (.addressesExhausted handle), stack) := by
  have hhandle := Stack.handle_of_scope? found
  cases owes with
  | takeAddress =>
    have hfault := Scope.takeAddress_of_limit stopped
    simp only [hhandle, perform_takeAddress, Stack.takeAddress_eq, found, hfault]
  | declare asks admits fresh =>
    have hfault := Scope.declare_of_limit fresh stopped
    rw [hhandle] at asks hfault
    exact perform_of_structural asks (Stack.declare_of_admits found admits hfault) rfl

theorem changed?_of_room (found : stack.scope? handle = some scope)
    (owes : scope.Owes stack.limits call) (room : scope.nextAddress ≠ AddressCounter.limit) :
    Event.changed? ⟨call, (call.perform stack).1⟩ = some handle := by
  have hhandle := Stack.handle_of_scope? found
  cases owes with
  | takeAddress =>
    have htaken := Scope.takeAddress_eq_ok_iff.mpr ⟨room, rfl, rfl⟩
    have hok := Stack.takeAddress_eq_ok_iff.mpr ⟨_, _, found, htaken, rfl⟩
    simp only [hhandle, perform_takeAddress, hok]
    rfl
  | declare asks admits fresh =>
    have hdeclared := Scope.declare_eq_ok_iff.mpr
      ⟨Scope.duplicateFault?_eq_none_of_lookup? fresh, room, rfl, rfl⟩
    have hok := Stack.declare_eq_ok_iff.mpr ⟨_, _, found, admits, hdeclared, rfl⟩
    rw [hhandle] at asks
    rw [perform_of_declared asks hok]
    exact Event.changed?_declared asks _

/-- What a scope owes is refused for want of an address exactly if its counter has stopped. -/
theorem perform_eq_exhausted_iff (found : stack.scope? handle = some scope)
    (owes : scope.Owes stack.limits call) :
    (call.perform stack).1 = .refused (.addressesExhausted handle) ↔
      scope.nextAddress = AddressCounter.limit := by
  constructor
  · intro hrefused
    by_contra room
    have hchanged := changed?_of_room found owes room
    rw [hrefused, Event.changed?_of_isIdle rfl] at hchanged
    simp at hchanged
  · intro stopped
    rw [perform_of_limit found owes stopped]

theorem nextAddress_performAll_of_limit (found : start.scope? handle = some scope)
    (stopped : scope.nextAddress = AddressCounter.limit) (calls : List Call)
    (stays : handle ∉ (history start calls).closed) :
    ∃ next, (performAll start calls).scope? handle = some next ∧
      next.nextAddress = AddressCounter.limit :=
  scope_induction (P := fun _ current => current.nextAddress = AddressCounter.limit) found stopped
    (fun _ _ _ _ stopped _ _ evolves => evolves.nextAddress_eq_limit stopped) calls stays

end Call

/-- The addresses of a scope in every run, from its opening on and for as long as it stays open. The
addresses that the scope hands out, to symbols and to temporaries, are zero, one, two and so on in
the order of the calls, and the counter tells how many there were. A call that could only fail for
want of an address does so exactly when all addresses but the largest one were handed out, and from
then on always, with no effect on the stack. -/
theorem addresses_count_up (limits : Limits) (before during : List Call) :
    let opened := (Call.performAll { limits } before).enter
    let stack := Call.performAll opened.2 during
    let addresses := Call.addresses opened.1 opened.2 during
    opened.1 ∉ (Call.history opened.2 during).closed →
      addresses.map UInt64.toNat = List.range addresses.length ∧
      ∃ scope, stack.scope opened.1 = .ok scope ∧
        scope.nextAddress.toNat = addresses.length ∧
        (∀ call, scope.Owes limits call →
          ((call.perform stack).1 = .refused (.addressesExhausted opened.1) ↔
            addresses.length = 2 ^ 64 - 1)) ∧
        (addresses.length = 2 ^ 64 - 1 → ∀ later,
          opened.1 ∉ (Call.history stack later).closed →
          let final := Call.performAll stack later
          ∃ scope, final.scope opened.1 = .ok scope ∧ ∀ call, scope.Owes limits call →
            call.perform final = (.refused (.addressesExhausted opened.1), final)) := by
  intro opened stack addresses stays
  have hopened := Stack.scope?_enter_fst (Call.performAll { limits } before)
  obtain ⟨scope, hscope, hrange⟩ := Call.addresses_eq_range hopened rfl during stays
  have hlength : scope.nextAddress.toNat = addresses.length := by
    rw [← List.length_range (n := scope.nextAddress.toNat), ← hrange, List.length_map]
  have hlimit : scope.nextAddress = AddressCounter.limit ↔ addresses.length = 2 ^ 64 - 1 := by
    rw [← UInt64.toNat_inj, hlength]
    rfl
  -- The stack is one that calls come to from the empty stack, so its limits are the given ones.
  have hlimits : ∀ later, (Call.performAll stack later).limits = limits := by
    intro later
    have hrun := (Stack.sound_performAll limits (before ++ .enter :: (during ++ later))).1
    rwa [Call.performAll_append, Call.performAll_cons, Call.performAll_append] at hrun
  refine ⟨by rw [hrange, hlength], scope, by rw [Stack.scope, hscope], hlength, ?_, ?_⟩
  · intro call owes
    rw [← hlimits []] at owes
    rw [Call.perform_eq_exhausted_iff hscope owes, hlimit]
  · intro hall later hlater final
    obtain ⟨next, hnext, hstopped⟩ :=
      Call.nextAddress_performAll_of_limit hscope (hlimit.mpr hall) later hlater
    refine ⟨next, by rw [Stack.scope, hnext], ?_⟩
    intro call owes
    rw [← hlimits later] at owes
    exact Call.perform_of_limit hnext owes hstopped

/-- A temporary and two symbols of the outer scope, with a refused duplicate and the declaration of
an inner scope between them. -/
theorem addresses_count_up_around_refusals :
    let calls := [.declare ⟨0, 0⟩ ⟨"x", .int, .var, 1⟩, .enter, .takeAddress ⟨0, 0⟩,
      .declareReporting ⟨0, 0⟩ ⟨"x", .char, .var, 2⟩, .declare ⟨1, 1⟩ ⟨"x", .int, .var, 3⟩,
      .declareReporting ⟨0, 0⟩ ⟨"y", .char, .var, 4⟩]
    let opened := (Call.performAll {} []).enter
    opened.1 ∉ (Call.history opened.2 calls).closed ∧
      (Call.addresses opened.1 opened.2 calls).map UInt64.toNat = [0, 1, 2] ∧
      ∃ scope, (Call.performAll opened.2 calls).scope opened.1 = .ok scope ∧
        scope.nextAddress.toNat = 3 := by
  intro calls opened
  have stays : opened.1 ∉ (Call.history opened.2 calls).closed := by decide
  have hlength : (Call.addresses opened.1 opened.2 calls).length = 3 := by decide
  obtain ⟨hrange, scope, hscope, hnext, _⟩ := addresses_count_up {} [] calls stays
  refine ⟨stays, ?_, scope, hscope, ?_⟩
  · rw [hrange, hlength]
    rfl
  · rw [hnext, hlength]

end Scoping
