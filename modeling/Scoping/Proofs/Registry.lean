import Scoping.Proofs.Positions

namespace Scoping

/-- The symbols, the names and the addresses of a scope agree with each other and with the limits
of its stack. -/
structure Scope.Sound (limits : Limits) (scope : Scope) : Prop where
  /-- Name index and store are inverse to each other. -/
  lookup?_eq_some_iff : ∀ (name : String) (id : Store.Id Symbol),
    scope.lookup? name = some id ↔ ∃ symbol, scope.get? id = some symbol ∧ symbol.name = name
  index_eq : ∀ (id : Store.Id Symbol) (symbol : Symbol),
    scope.get? id = some symbol → symbol.index = id.index
  addresses_increase : (scope.symbols.items.map Symbol.address).Pairwise (· < ·)
  index_le_address : ∀ symbol ∈ scope.symbols.items, symbol.index ≤ symbol.address.toNat
  address_lt : ∀ symbol ∈ scope.symbols.items, symbol.address < scope.nextAddress
  size_le : scope.size ≤ scope.nextAddress.toNat
  admits : ∀ symbol ∈ scope.symbols.items, limits.Admits symbol.toDeclaration

namespace Scope

variable {limits : Limits} {scope after : Scope}

theorem isSome_get?_iff {id : Store.Id Symbol} :
    (scope.get? id).isSome = true ↔ id.index < scope.size := by
  rw [← not_iff_not, Bool.not_eq_true, Option.isSome_eq_false_iff, Option.isNone_iff_eq_none]
  exact Store.get?_eq_none_iff.trans Nat.not_lt.symm

theorem lt_size_of_get? {id : Store.Id Symbol} {symbol : Symbol}
    (h : scope.get? id = some symbol) : id.index < scope.size := by
  rw [← isSome_get?_iff, h]
  rfl

theorem mem_items_of_get? {id : Store.Id Symbol} {symbol : Symbol}
    (h : scope.get? id = some symbol) : symbol ∈ scope.symbols.items :=
  List.mem_of_getElem? h

theorem items_add (scope : Scope) (declaration : Declaration) (address : Address) :
    (scope.add declaration address).2.symbols.items =
      scope.symbols.items ++ [{ declaration with index := scope.size, address }] := rfl

theorem forall_mem_items_add {declaration : Declaration} {address : Address}
    {P : Symbol → Prop} :
    (∀ symbol ∈ (scope.add declaration address).2.symbols.items, P symbol) ↔
      (∀ symbol ∈ scope.symbols.items, P symbol) ∧
        P { declaration with index := scope.size, address } := by
  simp [items_add, or_imp, forall_and]

namespace Sound

theorem empty (limits : Limits) (handle : Handle) : Sound limits { handle } where
  lookup?_eq_some_iff name id := by simp [lookup?, get?, Store.get?, Store.empty]
  index_eq id symbol h := by simp [get?, Store.get?, Store.empty] at h
  addresses_increase := by simp [Store.empty]
  index_le_address := by simp [Store.empty]
  address_lt := by simp [Store.empty]
  size_le := Nat.zero_le _
  admits := by simp [Store.empty]

theorem get?_of_lookup? (sound : scope.Sound limits) {name : String} {id : Store.Id Symbol}
    (h : scope.lookup? name = some id) :
    ∃ symbol, scope.get? id = some symbol ∧ symbol.name = name :=
  (sound.lookup?_eq_some_iff name id).mp h

/-- The symbol behind a name that the index has is never missing from the store. -/
theorem duplicateFault?_ne_missingSymbol (sound : scope.Sound limits) (declaration : Declaration)
    (missing : Store.OutOfRange) :
    scope.duplicateFault? declaration ≠ some (.missingSymbol missing) := by
  cases hid : scope.lookup? declaration.name with
  | none => simp [duplicateFault?_eq_none_of_lookup? hid]
  | some id =>
    obtain ⟨first, hfirst, _⟩ := sound.get?_of_lookup? hid
    simp [duplicateFault?_of_lookup? hid hfirst]

theorem tryDeclare_ne_missingSymbol (sound : scope.Sound limits) (declaration : Declaration)
    (missing : Store.OutOfRange) :
    (scope.tryDeclare declaration).1 ≠ .error (.missingSymbol missing) := by
  have hduplicate := sound.duplicateFault?_ne_missingSymbol declaration missing
  rw [tryDeclare]
  cases hfault : scope.duplicateFault? declaration with
  | some fault => simpa [hfault] using hduplicate
  | none =>
    by_cases hstopped : scope.nextAddress = AddressCounter.limit
    · simp [tryTakeAddress_of_eq hstopped]
    · simp [tryTakeAddress_of_ne hstopped]

theorem afterAddress (sound : scope.Sound limits)
    (room : scope.nextAddress ≠ AddressCounter.limit) : scope.afterAddress.Sound limits := by
  have hnext := toNat_nextAddress_afterAddress room
  refine ⟨sound.lookup?_eq_some_iff, sound.index_eq, sound.addresses_increase,
    sound.index_le_address, ?_, ?_, sound.admits⟩
  · intro symbol hsymbol
    have hlt := UInt64.lt_iff_toNat_lt.mp (sound.address_lt symbol hsymbol)
    rw [UInt64.lt_iff_toNat_lt, hnext]
    omega
  · have hle := sound.size_le
    rw [hnext, size_afterAddress]
    omega

/-- A new symbol at the end, under a name that the index does not have, keeps names and symbols
inverse to each other. -/
theorem lookup?_add_eq_some_iff (sound : scope.Sound limits) {declaration : Declaration}
    (fresh : scope.lookup? declaration.name = none) (address : Address) (name : String)
    (id : Store.Id Symbol) :
    (scope.add declaration address).2.lookup? name = some id ↔
      ∃ symbol, (scope.add declaration address).2.get? id = some symbol ∧
        symbol.name = name := by
  rw [lookup?_add, get?_add]
  by_cases hid : id = ⟨scope.size⟩
  · -- The position of the new symbol: no older name leads there.
    have hold : scope.lookup? name ≠ some id := by
      intro h
      obtain ⟨symbol, hsymbol, _⟩ := sound.get?_of_lookup? h
      have hlt := lt_size_of_get? hsymbol
      rw [hid] at hlt
      exact absurd hlt (Nat.lt_irrefl _)
    rw [hid] at hold
    by_cases hname : name = declaration.name
    · simp [hid, hname]
    · simp [hid, hname, hold, eq_comm]
  · by_cases hname : name = declaration.name
    · have hold : ¬ ∃ symbol, scope.get? id = some symbol ∧ symbol.name = name := by
        rw [← sound.lookup?_eq_some_iff, hname, fresh]
        simp
      have hne : (⟨scope.size⟩ : Store.Id Symbol) ≠ id := Ne.symm hid
      simpa [hid, hname, hne] using hold
    · simpa [hid, hname] using sound.lookup?_eq_some_iff name id

/-- A symbol under a new name, with an address above all others, keeps the agreement. -/
theorem add (sound : scope.Sound limits) {declaration : Declaration}
    (admits : limits.Admits declaration) (fresh : scope.lookup? declaration.name = none)
    (room : scope.nextAddress ≠ AddressCounter.limit) :
    (scope.afterAddress.add declaration scope.nextAddress).2.Sound limits := by
  have hafter := sound.afterAddress room
  have hnext := toNat_nextAddress_afterAddress room
  have hsize := sound.size_le
  refine ⟨hafter.lookup?_add_eq_some_iff fresh scope.nextAddress, ?_, ?_, ?_, ?_, ?_, ?_⟩
  · intro id symbol h
    rw [get?_add, get?_afterAddress, size_afterAddress] at h
    split at h
    · next hid =>
      rw [← Option.some.inj h, hid]
    · exact sound.index_eq id symbol h
  · rw [items_add, List.map_append, List.pairwise_append]
    refine ⟨sound.addresses_increase, by simp, ?_⟩
    intro earlier hearlier later hlater
    obtain ⟨symbol, hsymbol, rfl⟩ := List.mem_map.mp hearlier
    simp only [List.map_cons, List.map_nil, List.mem_singleton] at hlater
    rw [hlater]
    exact sound.address_lt symbol hsymbol
  · rw [forall_mem_items_add]
    exact ⟨sound.index_le_address, hsize⟩
  · rw [forall_mem_items_add]
    refine ⟨hafter.address_lt, ?_⟩
    rw [UInt64.lt_iff_toNat_lt]
    show scope.nextAddress.toNat < scope.afterAddress.nextAddress.toNat
    omega
  · rw [size_add, size_afterAddress]
    show scope.size + 1 ≤ scope.afterAddress.nextAddress.toNat
    omega
  · rw [forall_mem_items_add]
    exact ⟨sound.admits, admits⟩

theorem takeAddress (sound : scope.Sound limits) {address : Address}
    (h : scope.takeAddress = .ok (address, after)) : after.Sound limits := by
  obtain ⟨room, _, rfl⟩ := takeAddress_eq_ok_iff.mp h
  exact sound.afterAddress room

theorem declare (sound : scope.Sound limits) {declaration : Declaration} {symbol : SymbolRef}
    (admits : limits.Admits declaration)
    (h : scope.declare declaration = .ok (symbol, after)) : after.Sound limits := by
  obtain ⟨hfault, room, _, rfl⟩ := declare_eq_ok_iff.mp h
  exact sound.add admits (duplicateFault?_eq_none_iff.mp hfault) room

end Sound

end Scope

namespace Stack

variable {limits : Limits} {stack after : Stack}

def Sound (stack : Stack) : Prop := ∀ scope ∈ stack.scopes, scope.Sound stack.limits

theorem limits_of_step {event : Event} (step : Step stack event after) :
    after.limits = stack.limits := by
  cases step <;> rfl

theorem Sound.put (sound : stack.Sound) {handle : Handle} {changed : Scope}
    (h : changed.Sound stack.limits) : (stack.put handle changed).Sound := by
  intro scope hscope
  rcases List.mem_or_eq_of_mem_set hscope with hscope | rfl
  · exact sound scope hscope
  · exact h

theorem Sound.step {event : Event} (sound : stack.Sound) (step : Step stack event after) :
    after.Sound := by
  cases step with
  | enter =>
    intro scope hscope
    rw [scopes_enter, List.mem_append, List.mem_singleton] at hscope
    rcases hscope with hscope | rfl
    · exact sound scope hscope
    · exact Scope.Sound.empty _ _
  | exit _ =>
    intro scope hscope
    exact sound scope (List.dropLast_subset _ hscope)
  | declare _ found admits declared =>
    exact sound.put ((sound _ (mem_of_scope? found)).declare admits declared)
  | takeAddress found taken =>
    exact sound.put ((sound _ (mem_of_scope? found)).takeAddress taken)
  | idle _ => exact sound

theorem sound_performAll (limits : Limits) (calls : List Call) :
    (Call.performAll { limits } calls).limits = limits ∧
      (Call.performAll { limits } calls).Sound := by
  refine Call.run_induction (P := fun _ stack => stack.limits = limits ∧ stack.Sound) ?_ ?_ calls
  · refine ⟨rfl, ?_⟩
    intro scope hscope
    simp at hscope
  · rintro _ _ _ _ ⟨hlimits, sound⟩ step
    exact ⟨(limits_of_step step).trans hlimits, sound.step step⟩

end Stack

/-- In every run, the structures inside every open scope agree: names and symbols are inverse to
each other, identifiers are positions, addresses increase below the counter, and every symbol keeps
to the limits. So the symbol that a duplicate fault points at is always there, and no declaration
finds it missing. -/
theorem open_scope_agrees (limits : Limits) (calls : List Call) (scope : Scope)
    (isOpen : scope ∈ (Call.performAll { limits } calls).scopes) :
    (∀ (name : String) (id : Store.Id Symbol), scope.lookup? name = some id ↔
      ∃ symbol, scope.get? id = some symbol ∧ symbol.name = name) ∧
    (∀ (id id' : Store.Id Symbol) (symbol symbol' : Symbol), scope.get? id = some symbol →
      scope.get? id' = some symbol' → symbol.name = symbol'.name → id = id') ∧
    (∀ id : Store.Id Symbol, (scope.get? id).isSome = true ↔ id.index < scope.size) ∧
    (∀ (id : Store.Id Symbol) (symbol : Symbol), scope.get? id = some symbol →
      symbol.index = id.index) ∧
    (scope.symbols.items.map Symbol.address).Pairwise (· < ·) ∧
    (∀ symbol ∈ scope.symbols.items,
      symbol.index ≤ symbol.address.toNat ∧ symbol.address < scope.nextAddress) ∧
    (∀ symbol ∈ scope.symbols.items, symbol.name ≠ "" ∧
      symbol.name.utf8ByteSize ≤ limits.maxName ∧
      (∀ tag ∈ symbol.customTags, tag.utf8ByteSize ≤ limits.maxTag) ∧ 1 ≤ symbol.line) ∧
    (∀ (declaration : Declaration) (id : Store.Id Symbol),
      scope.lookup? declaration.name = some id →
        ∃ first, scope.symbols.fetch id = .ok first ∧ scope.duplicateFault? declaration =
          some (.duplicate declaration.name scope.handle first.line declaration.line
            (scope.ref id))) ∧
    ∀ (declaration : Declaration) (missing : Store.OutOfRange),
      (scope.tryDeclare declaration).1 ≠ .error (.missingSymbol missing) := by
  obtain ⟨hlimits, hsound⟩ := Stack.sound_performAll limits calls
  have sound := hsound scope isOpen
  rw [hlimits] at sound
  refine ⟨sound.lookup?_eq_some_iff, ?_, fun id => Scope.isSome_get?_iff, sound.index_eq,
    sound.addresses_increase, ?_, ?_, ?_, sound.tryDeclare_ne_missingSymbol⟩
  · intro id id' symbol symbol' h h' hname
    have hid := (sound.lookup?_eq_some_iff symbol.name id).mpr ⟨symbol, h, rfl⟩
    have hid' := (sound.lookup?_eq_some_iff symbol.name id').mpr ⟨symbol', h', hname.symm⟩
    exact Option.some.inj (hid.symm.trans hid')
  · intro symbol hsymbol
    exact ⟨sound.index_le_address symbol hsymbol, sound.address_lt symbol hsymbol⟩
  · intro symbol hsymbol
    have hadmits := sound.admits symbol hsymbol
    exact ⟨hadmits.name_ne_empty, hadmits.name_fits, hadmits.tags_fit, hadmits.line_pos⟩
  · intro declaration id hid
    obtain ⟨first, hfirst, _⟩ := sound.get?_of_lookup? hid
    exact ⟨first, Scope.fetch_symbols_of_get? hfirst, Scope.duplicateFault?_of_lookup? hid hfirst⟩

/-- A temporary takes the first address, so the address of the symbol exceeds its index. -/
theorem open_scope_agrees_after_temporary :
    ∃ scope ∈ (Call.performAll {} [.enter, .takeAddress ⟨0, 0⟩,
        .declare ⟨0, 0⟩ ⟨"x", .int, .var, 1⟩]).scopes,
      scope.nextAddress = 2 ∧ scope.size = 1 ∧
        (∀ id : Store.Id Symbol, scope.lookup? "x" = some id ↔
          ∃ symbol, scope.get? id = some symbol ∧ symbol.name = "x") ∧
        ∀ symbol ∈ scope.symbols.items,
          symbol.index ≤ symbol.address.toNat ∧ symbol.address < scope.nextAddress := by
  have isOpen := List.getElem_mem (l := (Call.performAll {} [.enter, .takeAddress ⟨0, 0⟩,
    .declare ⟨0, 0⟩ ⟨"x", .int, .var, 1⟩]).scopes) (n := 0) (by decide)
  have agrees := open_scope_agrees {} _ _ isOpen
  exact ⟨_, isOpen, by decide, by decide, agrees.1 "x", agrees.2.2.2.2.2.1⟩

end Scoping
