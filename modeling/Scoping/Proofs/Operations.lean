import Scoping.Call

namespace Scoping

section Granting

variable {σ α : Type} {tried : Except Fault α × σ} {state : σ}

/-- What an operation comes to, with the state that follows only where it is granted. -/
def granted : Except Fault α × σ → Except Fault (α × σ)
  | (.ok answer, state) => .ok (answer, state)
  | (.error fault, _) => .error fault

/-- The answer and the state of an operation that keeps the given state where it is refused. -/
def keeping (state : σ) : Except Fault (α × σ) → Except Fault α × σ
  | .ok (answer, after) => (.ok answer, after)
  | .error fault => (.error fault, state)

theorem eq_keeping_granted (kept : ∀ fault, tried.1 = .error fault → tried.2 = state) :
    tried = keeping state (granted tried) := by
  obtain ⟨answer, after⟩ := tried
  cases answer with
  | ok answer => rfl
  | error fault =>
    obtain rfl : after = state := kept fault rfl
    rfl

end Granting

def Scope.takeAddress (scope : Scope) : Except Fault (Address × Scope) :=
  granted scope.tryTakeAddress

def Scope.declare (scope : Scope) (declaration : Declaration) :
    Except Fault (SymbolRef × Scope) :=
  granted (scope.tryDeclare declaration)

def Stack.exit (stack : Stack) (handle : Handle) : Except Fault Stack :=
  (granted (stack.tryExit handle)).map Prod.snd

def Stack.takeAddress (stack : Stack) (handle : Handle) : Except Fault (Address × Stack) :=
  granted (stack.tryTakeAddress handle)

def Stack.declare (stack : Stack) (handle : Handle) (declaration : Declaration) :
    Except Fault (SymbolRef × Stack) :=
  granted (stack.tryDeclare handle declaration)

/-- What a declaration has to satisfy before any scope is looked at. -/
structure Limits.Admits (limits : Limits) (declaration : Declaration) : Prop where
  line_pos : 1 ≤ declaration.line
  name_ne_empty : declaration.name ≠ ""
  name_fits : declaration.name.utf8ByteSize ≤ limits.maxName
  tags_fit : ∀ tag ∈ declaration.customTags, tag.utf8ByteSize ≤ limits.maxTag

namespace Limits

variable {limits : Limits}

theorem nameProblem?_eq_none_iff {name : String} :
    limits.nameProblem? name = none ↔ name ≠ "" ∧ name.utf8ByteSize ≤ limits.maxName := by
  simp only [nameProblem?, String.isEmpty_iff]
  split
  · next h => simp [h]
  · next h => simp [h]

theorem tagFault?_eq_none_iff {name tag : String} {line : Nat} :
    limits.tagFault? name line tag = none ↔ tag.utf8ByteSize ≤ limits.maxTag := by
  simp [tagFault?, fitsTag]

theorem tagsFault?_eq_none_iff {name : String} {line : Nat} {tags : List String} :
    limits.tagsFault? name line tags = none ↔
      ∀ tag ∈ tags, tag.utf8ByteSize ≤ limits.maxTag := by
  simp [tagsFault?, List.findSome?_eq_none_iff, tagFault?_eq_none_iff]

theorem declarationFault?_eq_none_iff {declaration : Declaration} :
    limits.declarationFault? declaration = none ↔ limits.Admits declaration := by
  unfold declarationFault?
  split
  · next hline =>
    constructor
    · intro h
      simp at h
    · intro h
      have := h.line_pos
      omega
  · next hline =>
    split
    · next problem hproblem =>
      constructor
      · intro h
        simp at h
      · intro h
        have hname := nameProblem?_eq_none_iff.mpr ⟨h.name_ne_empty, h.name_fits⟩
        rw [hname] at hproblem
        simp at hproblem
    · next hname =>
      rw [tagsFault?_eq_none_iff]
      obtain ⟨hne, hfits⟩ := nameProblem?_eq_none_iff.mp hname
      exact ⟨fun h => ⟨by omega, hne, hfits, h⟩, fun h => h.tags_fit⟩

end Limits

namespace Scope

variable {scope next : Scope}

theorem fetch_symbols_of_get? {id : Store.Id Symbol} {symbol : Symbol}
    (h : scope.get? id = some symbol) : scope.symbols.fetch id = .ok symbol := by
  rw [get?] at h
  rw [Store.fetch, h]

theorem fetch_symbols_of_get?_eq_none {id : Store.Id Symbol} (h : scope.get? id = none) :
    scope.symbols.fetch id = .error ⟨scope.size, id.index⟩ := by
  rw [get?] at h
  rw [Store.fetch, h]
  rfl

theorem duplicateFault?_eq_none_of_lookup? {declaration : Declaration}
    (h : scope.lookup? declaration.name = none) : scope.duplicateFault? declaration = none := by
  rw [duplicateFault?, h]

theorem duplicateFault?_of_lookup? {declaration : Declaration} {id : Store.Id Symbol}
    {first : Symbol} (hid : scope.lookup? declaration.name = some id)
    (hfirst : scope.get? id = some first) :
    scope.duplicateFault? declaration =
      some (.duplicate declaration.name scope.handle first.line declaration.line
        (scope.ref id)) := by
  simp only [duplicateFault?, hid, fetch_symbols_of_get? hfirst]

theorem duplicateFault?_of_get?_eq_none {declaration : Declaration} {id : Store.Id Symbol}
    (hid : scope.lookup? declaration.name = some id) (hnone : scope.get? id = none) :
    scope.duplicateFault? declaration = some (.missingSymbol ⟨scope.size, id.index⟩) := by
  simp only [duplicateFault?, hid, fetch_symbols_of_get?_eq_none hnone]

theorem duplicateFault?_eq_none_iff {declaration : Declaration} :
    scope.duplicateFault? declaration = none ↔ scope.lookup? declaration.name = none := by
  refine ⟨fun h => ?_, duplicateFault?_eq_none_of_lookup?⟩
  rw [duplicateFault?] at h
  split at h
  · next hnone => exact hnone
  · split at h <;> simp at h

def afterAddress (scope : Scope) : Scope :=
  { scope with addresses := ⟨scope.nextAddress + 1⟩ }

@[simp] theorem size_afterAddress (scope : Scope) : scope.afterAddress.size = scope.size := rfl

@[simp] theorem get?_afterAddress (scope : Scope) (id : Store.Id Symbol) :
    scope.afterAddress.get? id = scope.get? id := rfl

theorem tryTakeAddress_of_eq (h : scope.nextAddress = AddressCounter.limit) :
    scope.tryTakeAddress = (.error (.addressesExhausted scope.handle), scope) := by
  rw [tryTakeAddress, AddressCounter.take_of_eq h]

theorem tryTakeAddress_of_ne (h : scope.nextAddress ≠ AddressCounter.limit) :
    scope.tryTakeAddress = (.ok scope.nextAddress, scope.afterAddress) := by
  rw [tryTakeAddress, AddressCounter.take_of_ne h]
  rfl

theorem takeAddress_eq_ok_iff {address : Address} :
    scope.takeAddress = .ok (address, next) ↔
      scope.nextAddress ≠ AddressCounter.limit ∧ address = scope.nextAddress ∧
        next = scope.afterAddress := by
  by_cases h : scope.nextAddress = AddressCounter.limit
  · simp [takeAddress, tryTakeAddress_of_eq h, granted, h]
  · simp [takeAddress, tryTakeAddress_of_ne h, granted, h, eq_comm]

/-- Below its limit the counter moves on by one, without wrapping. -/
theorem toNat_nextAddress_afterAddress (h : scope.nextAddress ≠ AddressCounter.limit) :
    scope.afterAddress.nextAddress.toNat = scope.nextAddress.toNat + 1 :=
  AddressCounter.toNat_succ_of_ne h

theorem tryTakeAddress_eq_keeping (scope : Scope) :
    scope.tryTakeAddress = keeping scope scope.takeAddress := by
  apply eq_keeping_granted
  intro fault h
  by_cases hlimit : scope.nextAddress = AddressCounter.limit
  · rw [tryTakeAddress_of_eq hlimit]
  · rw [tryTakeAddress_of_ne hlimit] at h
    simp at h

/-- A declaration from what the search for a duplicate and the counter answer. -/
theorem declare_eq (scope : Scope) (declaration : Declaration) :
    scope.declare declaration =
      match scope.duplicateFault? declaration with
      | some fault => .error fault
      | none =>
        match scope.takeAddress with
        | .error fault => .error fault
        | .ok (address, scope) => .ok (scope.add declaration address) := by
  rw [declare, tryDeclare, tryTakeAddress_eq_keeping]
  cases scope.duplicateFault? declaration with
  | some fault => rfl
  | none => cases scope.takeAddress <;> rfl

theorem tryDeclare_eq_keeping (scope : Scope) (declaration : Declaration) :
    scope.tryDeclare declaration = keeping scope (scope.declare declaration) := by
  apply eq_keeping_granted
  intro fault h
  rw [tryDeclare, tryTakeAddress_eq_keeping] at h ⊢
  cases hfault : scope.duplicateFault? declaration with
  | some duplicate => rfl
  | none =>
    cases htaken : scope.takeAddress with
    | error exhausted => rfl
    | ok taken => simp [hfault, htaken, keeping] at h

theorem declare_eq_ok_iff {declaration : Declaration} {symbol : SymbolRef} :
    scope.declare declaration = .ok (symbol, next) ↔
      scope.duplicateFault? declaration = none ∧ scope.nextAddress ≠ AddressCounter.limit ∧
        symbol = scope.ref ⟨scope.size⟩ ∧
        next = (scope.afterAddress.add declaration scope.nextAddress).2 := by
  rw [declare_eq]
  cases hfault : scope.duplicateFault? declaration with
  | some fault => simp
  | none =>
    cases htaken : scope.takeAddress with
    | error fault =>
      simp only [reduceCtorEq, true_and, false_iff, not_and]
      intro hne
      rw [takeAddress_eq_ok_iff.mpr ⟨hne, rfl, rfl⟩] at htaken
      simp at htaken
    | ok taken =>
      obtain ⟨address, after⟩ := taken
      obtain ⟨hne, rfl, rfl⟩ := takeAddress_eq_ok_iff.mp htaken
      simp only [Except.ok.injEq, true_and]
      rw [Prod.ext_iff, eq_comm, eq_comm (b := next)]
      simp only [ne_eq, hne, not_false_eq_true, true_and]
      rfl

end Scope

namespace Stack

variable {stack next : Stack} {handle : Handle}

theorem innermost_eq_ok_iff :
    stack.innermost = .ok handle ↔ stack.scopes.getLast?.map Scope.handle = some handle := by
  unfold innermost
  cases stack.scopes.getLast? <;> simp

theorem innermost_eq_error_iff {fault : Fault} :
    stack.innermost = .error fault ↔ stack.scopes = [] ∧ fault = .noOpenScope := by
  unfold innermost
  cases h : stack.scopes.getLast? with
  | none =>
    have hnil := List.getLast?_eq_none_iff.mp h
    simp [hnil, eq_comm]
  | some scope =>
    have hne : stack.scopes ≠ [] := by
      intro hnil
      simp [hnil] at h
    simp [hne]

/-- A scope that is put where it stands changes nothing. -/
theorem put_of_scope? {scope : Scope} (found : stack.scope? handle = some scope) :
    stack.put handle scope = stack := by
  obtain ⟨hplace, _⟩ := scope?_eq_some_iff.mp found
  have hscopes : stack.scopes.set handle.depth scope = stack.scopes := by
    apply List.ext_getElem?
    intro i
    rw [List.getElem?_set]
    split
    · next h => rw [← h, hplace, if_pos (List.getElem?_eq_some_iff.mp hplace).1]
    · rfl
  rw [put, hscopes]

theorem exit_eq (stack : Stack) (handle : Handle) :
    stack.exit handle =
      match stack.innermost with
      | .error fault => .error fault
      | .ok innermost =>
        if innermost = handle then .ok { stack with scopes := stack.scopes.dropLast }
        else .error (.scopeMismatch innermost handle) := by
  rw [exit, tryExit]
  cases stack.innermost with
  | error fault => rfl
  | ok innermost =>
    dsimp only
    split <;> rfl

theorem exit_eq_ok_iff :
    stack.exit handle = .ok next ↔
      stack.innermost = .ok handle ∧ next = { stack with scopes := stack.scopes.dropLast } := by
  rw [exit_eq]
  cases stack.innermost with
  | error fault => simp
  | ok innermost =>
    by_cases h : innermost = handle
    · simp [h, eq_comm]
    · simp [h]

theorem exit_of_ne {innermost : Handle} (h : stack.innermost = .ok innermost)
    (hne : innermost ≠ handle) : stack.exit handle = .error (.scopeMismatch innermost handle) := by
  simp [exit_eq, h, hne]

theorem exit_of_nil (h : stack.scopes = []) : stack.exit handle = .error .noOpenScope := by
  rw [exit_eq, innermost_eq_error_iff.mpr ⟨h, rfl⟩]

theorem tryExit_eq (stack : Stack) (handle : Handle) :
    stack.tryExit handle =
      match stack.exit handle with
      | .ok after => (.ok (), after)
      | .error fault => (.error fault, stack) := by
  rw [exit_eq, tryExit]
  cases stack.innermost with
  | error fault => rfl
  | ok innermost =>
    dsimp only
    split <;> rfl

theorem head?_handles : stack.handles.head? = some handle ↔ stack.innermost = .ok handle := by
  rw [innermost_eq_ok_iff, handles, List.head?_map, List.head?_reverse]

theorem takeAddress_eq (stack : Stack) (handle : Handle) :
    stack.takeAddress handle =
      match stack.scope? handle with
      | none => .error (.closedScope handle)
      | some scope =>
        match scope.takeAddress with
        | .error fault => .error fault
        | .ok (address, scope) => .ok (address, stack.put handle scope) := by
  rw [takeAddress, tryTakeAddress]
  cases stack.scope? handle with
  | none => rfl
  | some scope =>
    simp only [Scope.tryTakeAddress_eq_keeping]
    cases scope.takeAddress <;> rfl

theorem tryTakeAddress_eq_keeping (stack : Stack) (handle : Handle) :
    stack.tryTakeAddress handle = keeping stack (stack.takeAddress handle) := by
  apply eq_keeping_granted
  intro fault h
  rw [tryTakeAddress] at h ⊢
  cases hfound : stack.scope? handle with
  | none => rfl
  | some scope =>
    simp only [hfound, Scope.tryTakeAddress_eq_keeping] at h ⊢
    cases htaken : scope.takeAddress with
    | ok taken => simp [htaken, keeping] at h
    | error exhausted => exact put_of_scope? hfound

theorem takeAddress_eq_ok_iff {address : Address} :
    stack.takeAddress handle = .ok (address, next) ↔
      ∃ scope after, stack.scope? handle = some scope ∧
        scope.takeAddress = .ok (address, after) ∧ next = stack.put handle after := by
  rw [takeAddress_eq]
  cases stack.scope? handle with
  | none => simp
  | some scope =>
    cases htaken : scope.takeAddress with
    | error fault => simp [htaken]
    | ok taken =>
      obtain ⟨found, after⟩ := taken
      constructor
      · intro h
        simp only [htaken, Except.ok.injEq, Prod.mk.injEq] at h
        obtain ⟨rfl, rfl⟩ := h
        exact ⟨scope, after, rfl, htaken, rfl⟩
      · rintro ⟨_, _, hscope, hafter, rfl⟩
        obtain rfl := Option.some.inj hscope
        simp only [htaken, Except.ok.injEq, Prod.mk.injEq] at hafter
        obtain ⟨rfl, rfl⟩ := hafter
        simp [htaken]

theorem declare_eq (stack : Stack) (handle : Handle) (declaration : Declaration) :
    stack.declare handle declaration =
      match stack.scope? handle with
      | none => .error (.closedScope handle)
      | some scope =>
        match stack.limits.declarationFault? declaration with
        | some fault => .error fault
        | none =>
          match scope.declare declaration with
          | .error fault => .error fault
          | .ok (symbol, scope) => .ok (symbol, stack.put handle scope) := by
  rw [declare, tryDeclare]
  cases stack.scope? handle with
  | none => rfl
  | some scope =>
    cases stack.limits.declarationFault? declaration with
    | some fault => rfl
    | none =>
      simp only [Scope.tryDeclare_eq_keeping]
      cases scope.declare declaration <;> rfl

theorem tryDeclare_eq_keeping (stack : Stack) (handle : Handle) (declaration : Declaration) :
    stack.tryDeclare handle declaration = keeping stack (stack.declare handle declaration) := by
  apply eq_keeping_granted
  intro fault h
  rw [tryDeclare] at h ⊢
  cases hfound : stack.scope? handle with
  | none => rfl
  | some scope =>
    cases hfault : stack.limits.declarationFault? declaration with
    | some unfit => rfl
    | none =>
      simp only [hfound, hfault, Scope.tryDeclare_eq_keeping] at h ⊢
      cases hdeclared : scope.declare declaration with
      | ok declared => simp [hdeclared, keeping] at h
      | error refused => exact put_of_scope? hfound

theorem declare_eq_ok_iff {declaration : Declaration} {symbol : SymbolRef} :
    stack.declare handle declaration = .ok (symbol, next) ↔
      ∃ scope after, stack.scope? handle = some scope ∧ stack.limits.Admits declaration ∧
        scope.declare declaration = .ok (symbol, after) ∧ next = stack.put handle after := by
  rw [declare_eq]
  cases stack.scope? handle with
  | none => simp
  | some scope =>
    cases hfault : stack.limits.declarationFault? declaration with
    | some fault =>
      have hnot : ¬ stack.limits.Admits declaration := by
        intro h
        rw [Limits.declarationFault?_eq_none_iff.mpr h] at hfault
        simp at hfault
      simp [hnot]
    | none =>
      have hadmits := Limits.declarationFault?_eq_none_iff.mp hfault
      cases hdeclared : scope.declare declaration with
      | error fault => simp [hdeclared]
      | ok declared =>
        obtain ⟨found, after⟩ := declared
        constructor
        · intro h
          simp only [hdeclared, Except.ok.injEq, Prod.mk.injEq] at h
          obtain ⟨rfl, rfl⟩ := h
          exact ⟨scope, after, rfl, hadmits, hdeclared, rfl⟩
        · rintro ⟨_, _, hscope, _, hafter, rfl⟩
          obtain rfl := Option.some.inj hscope
          simp only [hdeclared, Except.ok.injEq, Prod.mk.injEq] at hafter
          obtain ⟨rfl, rfl⟩ := hafter
          simp [hdeclared]

theorem declare_of_admits {scope : Scope} {declaration : Declaration} {fault : Fault}
    (found : stack.scope? handle = some scope) (admits : stack.limits.Admits declaration)
    (refused : scope.declare declaration = .error fault) :
    stack.declare handle declaration = .error fault := by
  simp only [declare_eq, found, Limits.declarationFault?_eq_none_iff.mpr admits, refused]

end Stack

namespace Call

variable (stack : Stack) (handle : Handle) (declaration : Declaration)

theorem perform_exit :
    (exit handle).perform stack =
      match stack.exit handle with
      | .ok after => (.closed, after)
      | .error fault => (.refused fault, stack) := by
  rw [perform, Stack.tryExit_eq]
  cases stack.exit handle <;> rfl

theorem perform_declare :
    (declare handle declaration).perform stack =
      match stack.declare handle declaration with
      | .ok (symbol, after) => (.declared symbol, after)
      | .error fault => (.refused fault, stack) := by
  rw [perform, Stack.tryDeclare_eq_keeping]
  cases stack.declare handle declaration <;> rfl

theorem perform_declareReporting :
    (declareReporting handle declaration).perform stack =
      match stack.declare handle declaration with
      | .ok (symbol, after) => (.declared symbol, after)
      | .error fault =>
        (if fault.isStructural then .refused fault else .reported fault, stack) := by
  rw [perform, Stack.tryDeclare_eq_keeping]
  cases stack.declare handle declaration <;> rfl

theorem perform_takeAddress :
    (takeAddress handle).perform stack =
      match stack.takeAddress handle with
      | .ok (address, after) => (.address address, after)
      | .error fault => (.refused fault, stack) := by
  rw [perform, Stack.tryTakeAddress_eq_keeping]
  cases stack.takeAddress handle <;> rfl

end Call

end Scoping
