import Mathlib.Algebra.Group.Nat.Defs
import Scoping.Proofs.Addresses
import Scoping.Proofs.Resolution

namespace Scoping

def SymbolRef.withoutId (symbol : SymbolRef) : SymbolRef := { symbol with symbol := ⟨0⟩ }

def Fault.withoutId : Fault → Fault
  | duplicate name scope firstDeclaredAt redeclaredAt existing =>
    duplicate name scope firstDeclaredAt redeclaredAt existing.withoutId
  | fault => fault

@[simp] theorem Fault.isStructural_withoutId (fault : Fault) :
    fault.withoutId.isStructural = fault.isStructural := by
  cases fault <;> rfl

def Answer.withoutId : Answer → Answer
  | declared symbol => declared symbol.withoutId
  | resolved symbol => resolved (symbol.map SymbolRef.withoutId)
  | reported fault => reported fault.withoutId
  | refused fault => refused fault.withoutId
  | answer => answer

/-- An event up to the identifiers of symbols, which openings and closings do not have. -/
def Event.withoutId (event : Event) : Event :=
  match event.call with
  | .enter | .exit _ => event
  | call => ⟨call, event.answer.withoutId⟩

namespace Call

/-- Whether a call is left when declarations of other names and temporaries are taken out of a
run. -/
def isKept (name : String) : Call → Bool
  | declare _ declaration | declareReporting _ declaration => declaration.name = name
  | takeAddress _ => false
  | enter | exit _ | resolve _ | resolveReporting .. => true

/-- Whether the answer of a call is about the scopes themselves or about the name. -/
def concerns (name : String) : Call → Bool
  | enter | exit _ => true
  | declare _ declaration | declareReporting _ declaration => declaration.name = name
  | resolve other | resolveReporting other _ => other = name
  | takeAddress _ => false

/-- Whether a call asks for an address, for a symbol or as a temporary. -/
def takesAddress : Call → Bool
  | declare .. | declareReporting .. | takeAddress _ => true
  | enter | exit _ | resolve _ | resolveReporting .. => false

variable {call : Call} {name : String}

theorem takesAddress_of_declaration? {handle : Handle} {declaration : Declaration}
    (h : call.declaration? = some (handle, declaration)) : call.takesAddress = true := by
  cases call <;> simp_all [declaration?, takesAddress]

theorem isKept_of_declaration? {handle : Handle} {declaration : Declaration}
    (h : call.declaration? = some (handle, declaration)) :
    call.isKept name = decide (declaration.name = name) := by
  cases call <;> simp_all [declaration?, isKept]

theorem isKept_of_concerns (h : call.concerns name = true) : call.isKept name = true := by
  cases call <;> simp_all [concerns, isKept]

end Call

def History.concerning (history : History) (name : String) : History :=
  (history.filter fun event => event.call.concerns name).map Event.withoutId

theorem History.concerning_concat (history : History) (event : Event) (name : String) :
    History.concerning (history ++ [event]) name =
      history.concerning name ++ if event.call.concerns name then [event.withoutId] else [] := by
  rw [concerning, List.filter_append, List.map_append, concerning, List.filter_singleton]
  cases event.call.concerns name <;> rfl

def Scope.declared? (scope : Scope) (name : String) : Option Declaration :=
  (scope.lookup? name).bind fun id => (scope.get? id).map Symbol.toDeclaration

def Scope.view (name : String) (scope : Scope) : Handle × Option Declaration :=
  (scope.handle, scope.declared? name)

/-- What a stack holds of one name: for each open scope, outermost first, its handle and the
declaration of the name in it. -/
structure View where
  scopes : List (Handle × Option Declaration)
  nextSerial : UInt64
  limits : Limits

def Stack.view (name : String) (stack : Stack) : View where
  scopes := stack.scopes.map (Scope.view name)
  nextSerial := stack.nextSerial
  limits := stack.limits

namespace View

def scope? (view : View) (handle : Handle) : Option (Handle × Option Declaration) :=
  view.scopes[handle.depth]?.filter fun scope => scope.1 = handle

def origin? (scope : Handle × Option Declaration) : Option (Handle × Declaration) :=
  scope.2.map fun declaration => (scope.1, declaration)

def resolve (view : View) : Option (Handle × Declaration) := view.scopes.reverse.findSome? origin?

def lookupIn (view : View) (handle : Handle) : Except Fault (Option (Handle × Declaration)) :=
  match view.scope? handle with
  | none => .error (.closedScope handle)
  | some scope => .ok (origin? scope)

end View

/-- The scope that a symbol stands in and the declaration that it was made from. -/
def Stack.origin? (stack : Stack) (symbol : SymbolRef) : Option (Handle × Declaration) :=
  (stack.get? symbol).map fun held => (symbol.scope, held.toDeclaration)

namespace Scope

variable {limits : Limits} {scope other : Scope} {name : String} {declaration : Declaration}

/-- A symbol of another name is not seen. -/
theorem declared?_add_of_ne (sound : scope.Sound limits) (address : Address)
    (hne : name ≠ declaration.name) :
    (scope.add declaration address).2.declared? name = scope.declared? name := by
  rw [declared?, declared?, lookup?_add, if_neg hne]
  cases hid : scope.lookup? name with
  | none => rfl
  | some id =>
    obtain ⟨symbol, hsymbol, _⟩ := sound.get?_of_lookup? hid
    have hlt := lt_size_of_get? hsymbol
    have hold : id ≠ ⟨scope.size⟩ := by
      rintro rfl
      exact absurd hlt (Nat.lt_irrefl _)
    simp only [Option.bind_some, get?_add, if_neg hold]

theorem declared?_add_self (scope : Scope) (declaration : Declaration) (address : Address) :
    (scope.add declaration address).2.declared? declaration.name = some declaration := by
  rw [declared?, lookup?_add, if_pos rfl, Option.bind_some, get?_add, if_pos rfl]
  rfl

theorem view_of_declare {symbol : SymbolRef} {after : Scope}
    (h : scope.declare declaration = .ok (symbol, after)) :
    after.view declaration.name = (scope.handle, some declaration) := by
  obtain ⟨_, _, _, rfl⟩ := declare_eq_ok_iff.mp h
  rw [view, declared?_add_self]
  rfl

theorem view_of_declare_of_ne {symbol : SymbolRef} {after : Scope} (sound : scope.Sound limits)
    (h : scope.declare declaration = .ok (symbol, after)) (hne : name ≠ declaration.name) :
    after.view name = scope.view name := by
  obtain ⟨_, room, _, rfl⟩ := declare_eq_ok_iff.mp h
  rw [view, declared?_add_of_ne (sound.afterAddress room) _ hne]
  rfl

theorem view_of_takeAddress {address : Address} {after : Scope}
    (h : scope.takeAddress = .ok (address, after)) : after.view name = scope.view name := by
  obtain ⟨_, _, rfl⟩ := takeAddress_eq_ok_iff.mp h
  rfl

/-- Up to an identifier, the fault of a second declaration is told by the first one. -/
theorem duplicateFault?_withoutId (sound : scope.Sound limits) (declaration : Declaration) :
    (scope.duplicateFault? declaration).map Fault.withoutId =
      (scope.declared? declaration.name).map fun first =>
        .duplicate declaration.name scope.handle first.line declaration.line
          ⟨scope.handle, ⟨0⟩⟩ := by
  rw [declared?]
  cases hid : scope.lookup? declaration.name with
  | none =>
    rw [duplicateFault?_eq_none_of_lookup? hid]
    rfl
  | some id =>
    obtain ⟨first, hfirst, _⟩ := sound.get?_of_lookup? hid
    rw [duplicateFault?_of_lookup? hid hfirst, Option.bind_some, hfirst]
    rfl

end Scope

/-- Two outcomes that differ in identifiers only, with states after them that are alike. -/
inductive Outcomes {α : Type} (alike : α → α → Prop) :
    Except Fault (SymbolRef × α) → Except Fault (SymbolRef × α) → Prop
  | refused {fault fault' : Fault} (same : fault.withoutId = fault'.withoutId) :
      Outcomes alike (.error fault) (.error fault')
  | accepted {symbol symbol' : SymbolRef} {after after' : α}
      (same : symbol.withoutId = symbol'.withoutId) (follow : alike after after') :
      Outcomes alike (.ok (symbol, after)) (.ok (symbol', after'))

/-- Scopes that look alike to a name, with addresses left in both, answer its declaration alike. -/
theorem Scope.declare_of_view_eq {limits limits' : Limits} {scope other : Scope}
    {declaration : Declaration} (sound : scope.Sound limits) (sound' : other.Sound limits')
    (same : scope.view declaration.name = other.view declaration.name)
    (room : scope.nextAddress ≠ AddressCounter.limit)
    (room' : other.nextAddress ≠ AddressCounter.limit) :
    Outcomes (fun after after' => after.view declaration.name = after'.view declaration.name)
      (scope.declare declaration) (other.declare declaration) := by
  obtain ⟨hhandle, hdeclared⟩ := Prod.mk.inj same
  have hfaults : (scope.duplicateFault? declaration).map Fault.withoutId =
      (other.duplicateFault? declaration).map Fault.withoutId := by
    rw [duplicateFault?_withoutId sound, duplicateFault?_withoutId sound', hdeclared, hhandle]
  cases hfault : scope.duplicateFault? declaration with
  | some fault =>
    rw [hfault, Option.map_some, eq_comm, Option.map_eq_some_iff] at hfaults
    obtain ⟨fault', hfault', hsame⟩ := hfaults
    simp only [declare_eq, hfault, hfault']
    exact .refused hsame.symm
  | none =>
    rw [hfault, Option.map_none, eq_comm, Option.map_eq_none_iff] at hfaults
    have hok := declare_eq_ok_iff.mpr ⟨hfault, room, rfl, rfl⟩
    have hok' := declare_eq_ok_iff.mpr ⟨hfaults, room', rfl, rfl⟩
    rw [hok, hok']
    refine .accepted ?_ ?_
    · show SymbolRef.mk scope.handle ⟨0⟩ = SymbolRef.mk other.handle ⟨0⟩
      rw [hhandle]
    · rw [view_of_declare hok, view_of_declare hok', hhandle]

namespace Stack

variable {stack full own after : Stack} {handle : Handle} {scope changed : Scope} {name : String}

theorem scope?_view (stack : Stack) (handle : Handle) :
    (stack.view name).scope? handle = (stack.scope? handle).map (Scope.view name) := by
  rw [View.scope?, scope?, view, List.getElem?_map, Option.filter_map]
  rfl

theorem handles_view (stack : Stack) (name : String) :
    stack.handles = (stack.view name).scopes.reverse.map Prod.fst := by
  rw [handles, view, ← List.map_reverse, List.map_map]
  rfl

theorem view_put (changed : Scope) :
    (stack.put handle changed).view name = { stack.view name with
      scopes := (stack.view name).scopes.set handle.depth (changed.view name) } := by
  rw [view, scopes_put, List.map_set]
  rfl

theorem view_put_of_view_eq (found : stack.scope? handle = some scope)
    (same : changed.view name = scope.view name) :
    (stack.put handle changed).view name = stack.view name := by
  obtain ⟨hlt, hscope⟩ := List.getElem?_eq_some_iff.mp (scope?_eq_some_iff.mp found).1
  rw [view, view, scopes_put, List.map_set, same, ← hscope, ← List.map_set, List.set_getElem_self]
  rfl

/-- A step that is not about a name leaves what the stack holds of it. -/
theorem Sound.view_of_step {event : Event} (sound : stack.Sound) (step : Step stack event after)
    (other : event.call.isKept name = false) : after.view name = stack.view name := by
  cases step with
  | enter | exit => simp [Call.isKept] at other
  | declare asks found _ declared =>
    rw [Call.isKept_of_declaration? asks, decide_eq_false_iff_not] at other
    have hscope := sound _ (mem_of_scope? found)
    exact view_put_of_view_eq found
      (Scope.view_of_declare_of_ne hscope declared fun h => other h.symm)
  | takeAddress found taken => exact view_put_of_view_eq found (Scope.view_of_takeAddress taken)
  | idle _ => rfl

/-- A stack that a run came to, with an address left in every open scope. -/
structure Roomy (stack : Stack) : Prop where
  aligned : stack.Aligned
  sound : stack.Sound
  room : ∀ scope ∈ stack.scopes, scope.nextAddress ≠ AddressCounter.limit

section Alike

variable (same : full.view name = own.view name)
include same

theorem innermost_of_view_eq : full.innermost = own.innermost := by
  have hlast := congrArg (fun view : View => view.scopes.getLast?.map Prod.fst) same
  simp only [view, List.getLast?_map, Option.map_map] at hlast
  rw [innermost, innermost]
  cases hfull : full.scopes.getLast? with
  | none =>
    rw [hfull, Option.map_none, eq_comm, Option.map_eq_none_iff] at hlast
    rw [hlast]
  | some scope =>
    rw [hfull, Option.map_some, eq_comm, Option.map_eq_some_iff] at hlast
    obtain ⟨other, hother, hhandle⟩ := hlast
    have hsame : other.handle = scope.handle := hhandle
    rw [hother]
    simp only [hsame]

theorem enter_of_view_eq :
    full.enter.1 = own.enter.1 ∧ full.enter.2.view name = own.enter.2.view name := by
  have hserial : full.nextSerial = own.nextSerial := congrArg View.nextSerial same
  have hdepth : full.depth = own.depth := by
    have hlength := congrArg (fun view : View => view.scopes.length) same
    simpa only [view, List.length_map, depth] using hlength
  have hhandle : full.enter.1 = own.enter.1 := by
    rw [enter_fst, enter_fst, hserial, hdepth]
  refine ⟨hhandle, ?_⟩
  have hscopes : full.scopes.map (Scope.view name) = own.scopes.map (Scope.view name) :=
    congrArg View.scopes same
  have hlimits : full.limits = own.limits := congrArg View.limits same
  rw [view, view, scopes_enter, scopes_enter, List.map_append, List.map_append, hscopes, hhandle]
  show View.mk _ (full.nextSerial + 1) full.limits = View.mk _ (own.nextSerial + 1) own.limits
  rw [hserial, hlimits]

theorem exit_of_view_eq (handle : Handle) :
    (∃ fault, full.exit handle = .error fault ∧ own.exit handle = .error fault) ∨
      ∃ after after', full.exit handle = .ok after ∧ own.exit handle = .ok after' ∧
        after.view name = after'.view name := by
  have hinnermost := innermost_of_view_eq same
  rw [exit_eq, exit_eq, hinnermost]
  cases own.innermost with
  | error fault => exact Or.inl ⟨fault, rfl, rfl⟩
  | ok innermost =>
    by_cases h : innermost = handle
    · refine Or.inr ⟨_, _, if_pos h, if_pos h, ?_⟩
      show View.mk (full.scopes.dropLast.map _) _ _ = View.mk (own.scopes.dropLast.map _) _ _
      rw [List.map_dropLast, List.map_dropLast]
      exact congrArg (fun view : View => { view with scopes := view.scopes.dropLast }) same
    · exact Or.inl ⟨_, if_neg h, if_neg h⟩

theorem declare_of_view_eq {declaration : Declaration} (named : declaration.name = name)
    (roomy : full.Roomy) (roomy' : own.Roomy) (handle : Handle) :
    Outcomes (fun after after' => after.view name = after'.view name)
      (full.declare handle declaration) (own.declare handle declaration) := by
  subst named
  have hlimits : full.limits = own.limits := congrArg View.limits same
  have hscopes := congrArg (fun view : View => view.scope? handle) same
  simp only [scope?_view] at hscopes
  rw [declare_eq, declare_eq, hlimits]
  cases hfull : full.scope? handle with
  | none =>
    rw [hfull, Option.map_none, eq_comm, Option.map_eq_none_iff] at hscopes
    rw [hscopes]
    exact .refused rfl
  | some scope =>
    rw [hfull, Option.map_some, eq_comm, Option.map_eq_some_iff] at hscopes
    obtain ⟨other, hown, hview⟩ := hscopes
    rw [hown]
    cases own.limits.declarationFault? declaration with
    | some fault => exact .refused rfl
    | none =>
      have hmem := mem_of_scope? hfull
      have hmem' := mem_of_scope? hown
      have houtcomes := Scope.declare_of_view_eq (roomy.sound scope hmem)
        (roomy'.sound other hmem') hview.symm (roomy.room scope hmem) (roomy'.room other hmem')
      dsimp only
      generalize scope.declare declaration = outcome at houtcomes ⊢
      generalize other.declare declaration = outcome' at houtcomes ⊢
      cases houtcomes with
      | refused hsame => exact .refused hsame
      | accepted hsame hafter =>
        refine .accepted hsame ?_
        rw [view_put, view_put, same, hafter]

end Alike

/-- The scope and the declaration behind what a look-up in one scope finds. -/
theorem origin?_lookupRef? (sound : stack.Sound) (aligned : stack.Aligned)
    (found : scope ∈ stack.scopes) (name : String) :
    (scope.lookupRef? name).map stack.origin? = (View.origin? (scope.view name)).map some := by
  have hscope : stack.scope? scope.handle = some scope :=
    aligned.scope?_eq_some_iff_mem.mpr ⟨found, rfl⟩
  rw [Scope.lookupRef?, View.origin?, Scope.view, Scope.declared?]
  cases hid : scope.lookup? name with
  | none => rfl
  | some id =>
    obtain ⟨held, hheld, _⟩ := (sound scope found).get?_of_lookup? hid
    have hget : stack.get? (scope.ref id) = some held := by
      rw [get?, Scope.ref, hscope]
      exact hheld
    simp only [Option.map_some, Option.bind_some, hheld, origin?, hget]
    rfl

theorem origin?_resolve (sound : stack.Sound) (aligned : stack.Aligned) (name : String) :
    (stack.resolve name).map stack.origin? = (stack.view name).resolve.map some := by
  have hscopes : ∀ scopes : List Scope, (∀ scope ∈ scopes, scope ∈ stack.scopes) →
      (scopes.findSome? fun scope => scope.lookupRef? name).map stack.origin? =
        ((scopes.map (Scope.view name)).findSome? View.origin?).map some := by
    intro scopes within
    induction scopes with
    | nil => rfl
    | cons scope scopes ih =>
      have hhead := origin?_lookupRef? sound aligned (within scope List.mem_cons_self) name
      have htail := ih fun other h => within other (List.mem_cons_of_mem scope h)
      rw [List.map_cons, List.findSome?_cons, List.findSome?_cons]
      cases hlookup : scope.lookupRef? name with
      | none =>
        rw [hlookup, Option.map_none, eq_comm, Option.map_eq_none_iff] at hhead
        rw [hhead]
        exact htail
      | some symbol =>
        rw [hlookup, Option.map_some, eq_comm, Option.map_eq_some_iff] at hhead
        obtain ⟨origin, horigin, hsame⟩ := hhead
        rw [horigin, Option.map_some, Option.map_some, hsame]
  rw [resolve, View.resolve, view, ← List.map_reverse]
  exact hscopes _ fun scope h => List.mem_reverse.mp h

theorem withoutId_resolve (sound : stack.Sound) (aligned : stack.Aligned) (name : String) :
    (stack.resolve name).map SymbolRef.withoutId =
      (stack.view name).resolve.map fun origin => ⟨origin.1, ⟨0⟩⟩ := by
  have horigin := origin?_resolve sound aligned name
  cases hresolve : stack.resolve name with
  | none =>
    rw [hresolve, Option.map_none, eq_comm, Option.map_eq_none_iff] at horigin
    rw [horigin]
    rfl
  | some symbol =>
    rw [hresolve, Option.map_some, eq_comm, Option.map_eq_some_iff] at horigin
    obtain ⟨origin, hview, hsome⟩ := horigin
    obtain ⟨held, _, rfl⟩ := Option.map_eq_some_iff.mp hsome.symm
    rw [hview]
    rfl

theorem origin?_lookupIn (sound : stack.Sound) (aligned : stack.Aligned) (handle : Handle)
    (name : String) :
    (stack.lookupIn handle name).map (Option.map stack.origin?) =
      ((stack.view name).lookupIn handle).map (Option.map some) := by
  rw [View.lookupIn, scope?_view]
  cases hscope : stack.scope? handle with
  | none =>
    rw [lookupIn, Stack.scope, hscope]
    rfl
  | some scope =>
    rw [lookupIn_of_scope? hscope]
    exact congrArg Except.ok (origin?_lookupRef? sound aligned (mem_of_scope? hscope) name)

end Stack

namespace Call

variable {limits : Limits} {name : String} {call : Call}

theorem resolveReporting_snd (stack : Stack) (name : String) (line : Nat) :
    ((resolveReporting name line).perform stack).2 = stack := by
  simp only [perform]
  split <;> rfl

/-- No scope has handed out more addresses than were asked for. -/
theorem nextAddress_le_countP (limits : Limits) (calls : List Call) :
    ∀ scope ∈ (performAll { limits } calls).scopes,
      scope.nextAddress.toNat ≤ calls.countP takesAddress := by
  induction calls using List.reverseRecOn with
  | nil =>
    intro scope h
    simp at h
  | append_singleton calls call ih =>
    have step := step_perform (performAll { limits } calls) call
    rw [performAll_concat, List.countP_append, List.countP_singleton]
    generalize (call.perform (performAll { limits } calls)).2 = after at step ⊢
    generalize (call.perform (performAll { limits } calls)).1 = answer at step
    intro scope hscope
    cases step with
    | enter =>
      rw [Stack.scopes_enter, List.mem_append, List.mem_singleton] at hscope
      rcases hscope with hscope | rfl
      · exact Nat.le_add_right_of_le (ih scope hscope)
      · exact Nat.zero_le _
    | exit _ => exact Nat.le_add_right_of_le (ih scope (List.dropLast_subset _ hscope))
    | declare asks found _ declared =>
      have hmoved := (Scope.nextAddress_of_declare declared).2
      have hold := ih _ (Stack.mem_of_scope? found)
      rw [if_pos (takesAddress_of_declaration? asks)]
      rcases List.mem_or_eq_of_mem_set hscope with hscope | rfl
      · exact Nat.le_add_right_of_le (ih scope hscope)
      · omega
    | takeAddress found taken =>
      have hmoved := (Scope.nextAddress_of_takeAddress taken).2.2
      have hold := ih _ (Stack.mem_of_scope? found)
      rw [if_pos (by rfl)]
      rcases List.mem_or_eq_of_mem_set hscope with hscope | rfl
      · exact Nat.le_add_right_of_le (ih scope hscope)
      · omega
    | idle _ => exact Nat.le_add_right_of_le (ih scope hscope)

/-- With fewer requests than there are addresses, every open scope has one left. -/
theorem roomy_performAll (limits : Limits) {calls : List Call}
    (few : calls.countP takesAddress < 2 ^ 64 - 1) : (performAll { limits } calls).Roomy where
  aligned := Stack.aligned_performAll limits calls
  sound := (Stack.sound_performAll limits calls).2
  room scope hscope hlimit := by
    have hle := nextAddress_le_countP limits calls scope hscope
    have hmax : AddressCounter.limit.toNat = 2 ^ 64 - 1 := rfl
    rw [hlimit] at hle
    omega

section Alike

variable {full own : Stack} (same : full.view name = own.view name) (roomy : full.Roomy)
  (roomy' : own.Roomy)
include same roomy roomy'

theorem perform_declaration_of_view_eq {handle : Handle} {declaration : Declaration}
    (asks : call.declaration? = some (handle, declaration)) (named : declaration.name = name) :
    (call.perform full).1.withoutId = (call.perform own).1.withoutId ∧
      (call.perform full).2.view name = (call.perform own).2.view name := by
  have houtcomes := Stack.declare_of_view_eq same named roomy roomy' handle
  generalize hfull : full.declare handle declaration = outcome at houtcomes
  generalize hown : own.declare handle declaration = outcome' at houtcomes
  cases houtcomes with
  | accepted hsame hview =>
    rw [perform_of_declared asks hfull, perform_of_declared asks hown]
    exact ⟨congrArg Answer.declared hsame, hview⟩
  | @refused fault fault' hsame =>
    have hstructural : fault.isStructural = fault'.isStructural := by
      rw [← fault.isStructural_withoutId, hsame, fault'.isStructural_withoutId]
    cases call with
    | declare =>
      obtain ⟨rfl, rfl⟩ := Prod.mk.inj (Option.some.inj asks)
      simp only [perform_declare, hfull, hown]
      exact ⟨congrArg Answer.refused hsame, same⟩
    | declareReporting =>
      obtain ⟨rfl, rfl⟩ := Prod.mk.inj (Option.some.inj asks)
      simp only [perform_declareReporting, hfull, hown, hstructural]
      refine ⟨?_, same⟩
      split
      · exact congrArg Answer.refused hsame
      · exact congrArg Answer.reported hsame
    | enter | exit | takeAddress | resolve | resolveReporting => simp [declaration?] at asks

theorem perform_resolution_of_view_eq (line : Nat) :
    ((resolve name).perform full).1.withoutId = ((resolve name).perform own).1.withoutId ∧
      ((resolveReporting name line).perform full).1.withoutId =
        ((resolveReporting name line).perform own).1.withoutId := by
  have hresolve : (full.resolve name).map SymbolRef.withoutId =
      (own.resolve name).map SymbolRef.withoutId := by
    rw [Stack.withoutId_resolve roomy.sound roomy.aligned, same,
      ← Stack.withoutId_resolve roomy'.sound roomy'.aligned]
  refine ⟨congrArg Answer.resolved hresolve, ?_⟩
  simp only [perform]
  cases hfull : full.resolve name with
  | none =>
    rw [hfull, Option.map_none, eq_comm, Option.map_eq_none_iff] at hresolve
    rw [hresolve]
  | some symbol =>
    rw [hfull, Option.map_some, eq_comm, Option.map_eq_some_iff] at hresolve
    obtain ⟨symbol', hown, hsame⟩ := hresolve
    rw [hown]
    exact congrArg (fun found => Answer.resolved (some found)) hsame.symm

/-- Two stacks that hold the same of a name answer a call alike, if it concerns the name, and hold
the same of it after the call. -/
theorem perform_of_view_eq (kept : call.isKept name = true) :
    (call.concerns name = true →
      Event.withoutId ⟨call, (call.perform full).1⟩ =
        Event.withoutId ⟨call, (call.perform own).1⟩) ∧
    (call.perform full).2.view name = (call.perform own).2.view name := by
  cases call with
  | enter =>
    obtain ⟨hhandle, hview⟩ := Stack.enter_of_view_eq same
    refine ⟨fun _ => ?_, hview⟩
    simp only [perform, hhandle]
  | exit handle =>
    rcases Stack.exit_of_view_eq same handle with
      ⟨fault, hfull, hown⟩ | ⟨after, after', hfull, hown, hview⟩
    · simp only [perform_exit, hfull, hown]
      exact ⟨fun _ => trivial, same⟩
    · simp only [perform_exit, hfull, hown]
      exact ⟨fun _ => trivial, hview⟩
  | declare handle declaration =>
    have asks : (declare handle declaration).declaration? = some (handle, declaration) := rfl
    obtain ⟨hanswer, hview⟩ :=
      perform_declaration_of_view_eq same roomy roomy' asks (of_decide_eq_true kept)
    exact ⟨fun _ => congrArg (Event.mk _) hanswer, hview⟩
  | declareReporting handle declaration =>
    have asks : (declareReporting handle declaration).declaration? =
      some (handle, declaration) := rfl
    obtain ⟨hanswer, hview⟩ :=
      perform_declaration_of_view_eq same roomy roomy' asks (of_decide_eq_true kept)
    exact ⟨fun _ => congrArg (Event.mk _) hanswer, hview⟩
  | takeAddress handle => simp [isKept] at kept
  | resolve other =>
    refine ⟨fun concerns => ?_, same⟩
    obtain rfl : other = name := of_decide_eq_true concerns
    exact congrArg (Event.mk _) (perform_resolution_of_view_eq same roomy roomy' 0).1
  | resolveReporting other line =>
    refine ⟨fun concerns => ?_, ?_⟩
    · obtain rfl : other = name := of_decide_eq_true concerns
      exact congrArg (Event.mk _) (perform_resolution_of_view_eq same roomy roomy' line).2
    · rw [resolveReporting_snd, resolveReporting_snd]
      exact same

end Alike

section Runs

variable (limits : Limits) (name : String)

theorem countP_filter_le (calls : List Call) :
    (calls.filter (isKept name)).countP takesAddress ≤ calls.countP takesAddress :=
  List.filter_sublist.countP_le

/-- With and without the calls for other names, a run comes to stacks that hold the same of a name,
and what concerns the name has happened alike on the way. -/
theorem same_without_others {calls : List Call} (few : calls.countP takesAddress < 2 ^ 64 - 1) :
    (performAll { limits } calls).view name =
        (performAll { limits } (calls.filter (isKept name))).view name ∧
      (history { limits } calls).concerning name =
        (history { limits } (calls.filter (isKept name))).concerning name := by
  induction calls using List.reverseRecOn with
  | nil => exact ⟨rfl, rfl⟩
  | append_singleton calls call ih =>
    rw [List.countP_append] at few
    have before : calls.countP takesAddress < 2 ^ 64 - 1 := by omega
    have before' := Nat.lt_of_le_of_lt (countP_filter_le name calls) before
    have roomy := roomy_performAll limits before
    have roomy' := roomy_performAll limits before'
    obtain ⟨hview, hevents⟩ := ih before
    rw [performAll_concat, history_concat, History.concerning_concat, hevents]
    cases hkept : call.isKept name with
    | false =>
      -- The call is left out of the one run, and in the other the name does not see it.
      have hconcerns : ¬ call.concerns name = true := by
        intro hconcerns
        rw [isKept_of_concerns hconcerns] at hkept
        simp at hkept
      have hfilter : (calls ++ [call]).filter (isKept name) = calls.filter (isKept name) := by
        simp [hkept]
      rw [hfilter, roomy.sound.view_of_step (step_perform _ call) hkept, hview, if_neg hconcerns,
        List.append_nil]
      exact ⟨rfl, rfl⟩
    | true =>
      have hfilter : (calls ++ [call]).filter (isKept name) =
          calls.filter (isKept name) ++ [call] := by
        simp [hkept]
      obtain ⟨hanswer, hafter⟩ := perform_of_view_eq hview roomy roomy' hkept
      rw [hfilter, performAll_concat, history_concat, History.concerning_concat]
      refine ⟨hafter, ?_⟩
      by_cases hconcerns : call.concerns name = true
      · rw [if_pos hconcerns, if_pos hconcerns, hanswer hconcerns]
      · rw [if_neg hconcerns, if_neg hconcerns]

end Runs

end Call

/-- A name in every run that asks for fewer addresses than there are, next to the run in which no
other name is declared and no temporary is taken. Scopes are opened and closed alike, each
declaration of the name is accepted or refused alike, and at every point both runs find the name in
the same scope, as the same declaration, or neither finds it. Only identifiers and addresses
differ. -/
theorem names_keep_apart (limits : Limits) (name : String) (calls : List Call)
    (few : calls.countP Call.takesAddress < 2 ^ 64 - 1) :
    (Call.history { limits } calls).concerning name =
      (Call.history { limits } (calls.filter (Call.isKept name))).concerning name ∧
    ∀ before after, calls = before ++ after →
      let full := Call.performAll { limits } before
      let own := Call.performAll { limits } (before.filter (Call.isKept name))
      full.handles = own.handles ∧
      (∃ found : Option (Handle × Declaration),
        (full.resolve name).map full.origin? = found.map some ∧
        (own.resolve name).map own.origin? = found.map some) ∧
      ∀ handle, ∃ found : Except Fault (Option (Handle × Declaration)),
        (full.lookupIn handle name).map (Option.map full.origin?) =
          found.map (Option.map some) ∧
        (own.lookupIn handle name).map (Option.map own.origin?) =
          found.map (Option.map some) := by
  refine ⟨(Call.same_without_others limits name few).2, ?_⟩
  intro before after hcalls full own
  have hbefore : before.countP Call.takesAddress < 2 ^ 64 - 1 := by
    rw [hcalls, List.countP_append] at few
    omega
  have hbefore' := Nat.lt_of_le_of_lt (Call.countP_filter_le name before) hbefore
  have roomy : full.Roomy := Call.roomy_performAll limits hbefore
  have roomy' : own.Roomy := Call.roomy_performAll limits hbefore'
  have same : full.view name = own.view name := (Call.same_without_others limits name hbefore).1
  refine ⟨?_, ⟨(own.view name).resolve, ?_, ?_⟩,
    fun handle => ⟨(own.view name).lookupIn handle, ?_, ?_⟩⟩
  · rw [Stack.handles_view, same, ← Stack.handles_view]
  · rw [Stack.origin?_resolve roomy.sound roomy.aligned, same]
  · rw [Stack.origin?_resolve roomy'.sound roomy'.aligned]
  · rw [Stack.origin?_lookupIn roomy.sound roomy.aligned, same]
  · rw [Stack.origin?_lookupIn roomy'.sound roomy'.aligned]

/-- A second declaration of a name in an inner scope is refused for the first one, with and without
the other names, although the first one has another place among them. -/
theorem names_keep_apart_in_inner_scope :
    let calls : List Call := [.enter, .declare ⟨0, 0⟩ ⟨"y", .int, .var, 1⟩, .enter,
      .takeAddress ⟨1, 1⟩, .declare ⟨1, 1⟩ ⟨"y", .int, .var, 2⟩,
      .declare ⟨1, 1⟩ ⟨"x", .char, .var, 3⟩, .declareReporting ⟨1, 1⟩ ⟨"x", .int, .var, 4⟩,
      .exit ⟨0, 0⟩]
    let kept : List Call := [.enter, .enter, .declare ⟨1, 1⟩ ⟨"x", .char, .var, 3⟩,
      .declareReporting ⟨1, 1⟩ ⟨"x", .int, .var, 4⟩, .exit ⟨0, 0⟩]
    calls.countP Call.takesAddress < 2 ^ 64 - 1 ∧ calls.filter (Call.isKept "x") = kept ∧
      (Call.performAll {} calls).resolve "x" = some ⟨⟨1, 1⟩, ⟨1⟩⟩ ∧
      (Call.performAll {} kept).resolve "x" = some ⟨⟨1, 1⟩, ⟨0⟩⟩ ∧
      (Call.history {} calls).concerning "x" = (Call.history {} kept).concerning "x" := by
  intro calls kept
  have hkept : calls.filter (Call.isKept "x") = kept := by decide
  obtain ⟨hevents, _⟩ := names_keep_apart {} "x" calls (by decide)
  rw [hkept] at hevents
  exact ⟨by decide, hkept, by decide, by decide, hevents⟩

end Scoping
