import Mathlib.Algebra.Group.Nat.Defs
import Mathlib.Data.Nat.Find
import Scoping.Proofs.Addresses
import Scoping.Proofs.Refusals

namespace Scoping

/-- Something that is wrong with a declaration, by rank, and the fault that stands for it. -/
inductive Stack.Objection (stack : Stack) (handle : Handle) (declaration : Declaration) :
    Nat → Fault → Prop
  | closed (closed : stack.isOpen handle = false) :
      Objection stack handle declaration 0 (.closedScope handle)
  | zeroLine (zero : declaration.line = 0) :
      Objection stack handle declaration 1 (.invalidLine declaration.name)
  | emptyName (empty : declaration.name = "") :
      Objection stack handle declaration 2
        (.invalidName declaration.name declaration.line .empty)
  | longName (long : stack.limits.maxName < declaration.name.utf8ByteSize) :
      Objection stack handle declaration 3
        (.invalidName declaration.name declaration.line
          (.tooLong declaration.name.utf8ByteSize stack.limits.maxName))
  | longType {word : String} (custom : declaration.type.custom? = some word)
      (long : stack.limits.maxTag < word.utf8ByteSize) :
      Objection stack handle declaration 4
        (.tagTooLong declaration.name word declaration.line stack.limits.maxTag)
  | longKind {word : String} (custom : declaration.kind.custom? = some word)
      (long : stack.limits.maxTag < word.utf8ByteSize) :
      Objection stack handle declaration 5
        (.tagTooLong declaration.name word declaration.line stack.limits.maxTag)
  | duplicate {scope : Scope} {id : Store.Id Symbol} {first : Symbol}
      (found : stack.scope? handle = some scope)
      (named : scope.lookup? declaration.name = some id) (stored : scope.get? id = some first) :
      Objection stack handle declaration 6
        (.duplicate declaration.name handle first.line declaration.line ⟨handle, id⟩)
  | exhausted {scope : Scope} (found : stack.scope? handle = some scope)
      (full : scope.nextAddress.toNat = 2 ^ 64 - 1) :
      Objection stack handle declaration 7 (.addressesExhausted handle)

/-- Every name that an open scope has in its index is that of a symbol in its store. -/
def Stack.Indexed (stack : Stack) : Prop :=
  ∀ scope ∈ stack.scopes, ∀ (name : String) (id : Store.Id Symbol),
    scope.lookup? name = some id → ∃ symbol, scope.get? id = some symbol

structure Scope.Gains (scope : Scope) (declaration : Declaration) (after : Scope) : Prop where
  handle : after.handle = scope.handle
  symbols : after.symbols.items = scope.symbols.items ++
    [{ declaration with index := scope.size, address := scope.nextAddress }]
  unnamed : scope.lookup? declaration.name = none
  names : ∀ name, after.lookup? name =
    if name = declaration.name then some ⟨scope.size⟩ else scope.lookup? name
  nextAddress : after.nextAddress.toNat = scope.nextAddress.toNat + 1

/-- What a declaration that is accepted does to a stack, and the symbol that it is answered with. -/
structure Stack.Gains (stack : Stack) (handle : Handle) (declaration : Declaration)
    (symbol : SymbolRef) (after : Stack) : Prop where
  limits : after.limits = stack.limits
  nextSerial : after.nextSerial = stack.nextSerial
  elsewhere : ∀ position ≠ handle.depth, after.scopes[position]? = stack.scopes[position]?
  within : ∃ scope changed, stack.scope? handle = some scope ∧
    after.scope? handle = some changed ∧ scope.Gains declaration changed ∧
    symbol = ⟨handle, ⟨scope.size⟩⟩

namespace Stack

variable {stack : Stack} {handle : Handle} {declaration : Declaration} {rank : Nat} {fault : Fault}

/-- There is no objection of a rank below the given one. -/
def Clear (stack : Stack) (handle : Handle) (declaration : Declaration) (rank : Nat) : Prop :=
  ∀ earlier < rank, ∀ fault, ¬ stack.Objection handle declaration earlier fault

namespace Clear

theorem exists_scope (clear : stack.Clear handle declaration rank) (h : 0 < rank) :
    ∃ scope, stack.scope? handle = some scope := by
  cases hscope : stack.scope? handle with
  | some scope => exact ⟨scope, rfl⟩
  | none =>
    have hclosed : stack.isOpen handle = false := by
      rw [isOpen, hscope]
      rfl
    exact absurd (.closed hclosed) (clear 0 h _)

theorem line_ne_zero (clear : stack.Clear handle declaration rank) (h : 1 < rank) :
    declaration.line ≠ 0 := fun zero => clear 1 h _ (.zeroLine zero)

theorem name_ne_empty (clear : stack.Clear handle declaration rank) (h : 2 < rank) :
    declaration.name ≠ "" := fun empty => clear 2 h _ (.emptyName empty)

theorem name_fits (clear : stack.Clear handle declaration rank) (h : 3 < rank) :
    declaration.name.utf8ByteSize ≤ stack.limits.maxName :=
  Nat.not_lt.mp fun long => clear 3 h _ (.longName long)

theorem type_fits (clear : stack.Clear handle declaration rank) (h : 4 < rank) {word : String}
    (custom : declaration.type.custom? = some word) : word.utf8ByteSize ≤ stack.limits.maxTag :=
  Nat.not_lt.mp fun long => clear 4 h _ (.longType custom long)

theorem kind_fits (clear : stack.Clear handle declaration rank) (h : 5 < rank) {word : String}
    (custom : declaration.kind.custom? = some word) : word.utf8ByteSize ≤ stack.limits.maxTag :=
  Nat.not_lt.mp fun long => clear 5 h _ (.longKind custom long)

theorem admits (clear : stack.Clear handle declaration rank) (h : 5 < rank) :
    stack.limits.Admits declaration where
  line_pos := Nat.pos_of_ne_zero (clear.line_ne_zero (by omega))
  name_ne_empty := clear.name_ne_empty (by omega)
  name_fits := clear.name_fits (by omega)
  tags_fit tag kept := by
    rw [declaration.customTags_eq, List.mem_append, Option.mem_toList, Option.mem_toList] at kept
    rcases kept with htype | hkind
    · exact clear.type_fits (by omega) htype
    · exact clear.kind_fits h hkind

theorem unnamed (clear : stack.Clear handle declaration rank) (h : 6 < rank)
    (indexed : stack.Indexed) {scope : Scope} (found : stack.scope? handle = some scope) :
    scope.lookup? declaration.name = none := by
  cases hnamed : scope.lookup? declaration.name with
  | none => rfl
  | some id =>
    obtain ⟨first, hfirst⟩ := indexed scope (mem_of_scope? found) _ id hnamed
    exact absurd (.duplicate found hnamed hfirst) (clear 6 h _)

theorem room (clear : stack.Clear handle declaration rank) (h : 7 < rank) {scope : Scope}
    (found : stack.scope? handle = some scope) : scope.nextAddress ≠ AddressCounter.limit := by
  intro stopped
  have hfull : scope.nextAddress.toNat = 2 ^ 64 - 1 := by
    rw [stopped]
    rfl
  exact clear 7 h _ (.exhausted found hfull)

end Clear

theorem declare_of_long_tag (clear : stack.Clear handle declaration rank) (h : 3 < rank)
    {before after : List String} {word : String}
    (split : declaration.customTags = before ++ word :: after)
    (fit : ∀ other ∈ before, other.utf8ByteSize ≤ stack.limits.maxTag)
    (long : stack.limits.maxTag < word.utf8ByteSize) :
    stack.declare handle declaration =
      .error (.tagTooLong declaration.name word declaration.line stack.limits.maxTag) := by
  obtain ⟨scope, found⟩ := clear.exists_scope (by omega)
  have hname := Limits.nameProblem?_eq_none_iff.mpr
    ⟨clear.name_ne_empty (by omega), clear.name_fits h⟩
  have htags : stack.limits.tagsFault? declaration.name declaration.line declaration.customTags =
      some (.tagTooLong declaration.name word declaration.line stack.limits.maxTag) := by
    rw [split]
    exact Limits.tagsFault?_of_long fit long
  exact declare_of_declarationFault? found
    (Limits.declarationFault?_of_tagsFault? (clear.line_ne_zero (by omega)) hname htags)

/-- An objection with none of a lower rank is what the declaration is refused for. -/
theorem declare_of_objection (indexed : stack.Indexed)
    (objection : stack.Objection handle declaration rank fault)
    (clear : stack.Clear handle declaration rank) :
    stack.declare handle declaration = .error fault := by
  cases objection with
  | closed closed =>
    have hscope : stack.scope? handle = none := by
      rwa [isOpen, Option.isSome_eq_false_iff, Option.isNone_iff_eq_none] at closed
    simp only [declare_eq, hscope]
  | zeroLine zero =>
    obtain ⟨scope, found⟩ := clear.exists_scope (by omega)
    exact declare_of_declarationFault? found (if_pos zero)
  | emptyName empty =>
    obtain ⟨scope, found⟩ := clear.exists_scope (by omega)
    have hproblem : stack.limits.nameProblem? declaration.name = some .empty :=
      if_pos (String.isEmpty_iff.mpr empty)
    exact declare_of_declarationFault? found
      (Limits.declarationFault?_of_nameProblem? (clear.line_ne_zero (by omega)) hproblem)
  | longName long =>
    obtain ⟨scope, found⟩ := clear.exists_scope (by omega)
    have hproblem := Limits.nameProblem?_of_long (clear.name_ne_empty (by omega)) long
    exact declare_of_declarationFault? found
      (Limits.declarationFault?_of_nameProblem? (clear.line_ne_zero (by omega)) hproblem)
  | @longType word custom long =>
    have hsplit : declaration.customTags = [] ++ word :: declaration.kind.custom?.toList := by
      rw [declaration.customTags_eq, custom]
      rfl
    exact declare_of_long_tag clear (by omega) hsplit (List.forall_mem_nil _) long
  | @longKind word custom long =>
    have hsplit : declaration.customTags = declaration.type.custom?.toList ++ word :: [] := by
      rw [declaration.customTags_eq, custom]
      rfl
    have hfit : ∀ other ∈ declaration.type.custom?.toList,
        other.utf8ByteSize ≤ stack.limits.maxTag := fun other kept =>
      clear.type_fits (by omega) (Option.mem_toList.mp kept)
    exact declare_of_long_tag clear (by omega) hsplit hfit long
  | @duplicate scope id first found named stored =>
    have hrefused : scope.declare declaration = .error (.duplicate declaration.name handle
        first.line declaration.line ⟨handle, id⟩) := by
      simp only [Scope.declare_eq, Scope.duplicateFault?_of_lookup? named stored, Scope.ref,
        handle_of_scope? found]
    exact declare_of_admits found (clear.admits (by omega)) hrefused
  | @exhausted scope found full =>
    have hstopped : scope.nextAddress = AddressCounter.limit := by
      rw [← UInt64.toNat_inj, full]
      rfl
    have hrefused := Scope.declare_of_limit (clear.unnamed (by omega) indexed found) hstopped
    rw [handle_of_scope? found] at hrefused
    exact declare_of_admits found (clear.admits (by omega)) hrefused

theorem exists_objection_of_lowest_rank
    (objection : ∃ rank fault, stack.Objection handle declaration rank fault) :
    ∃ rank fault, stack.Objection handle declaration rank fault ∧
      stack.Clear handle declaration rank := by
  classical
  obtain ⟨fault, hfault⟩ := Nat.find_spec objection
  refine ⟨Nat.find objection, fault, hfault, ?_⟩
  intro earlier hlt other hother
  exact Nat.find_min objection hlt ⟨other, hother⟩

/-- A declaration without objections is accepted. -/
theorem exists_gains_of_no_objection (indexed : stack.Indexed)
    (none : ∀ rank fault, ¬ stack.Objection handle declaration rank fault) :
    ∃ symbol after, stack.declare handle declaration = .ok (symbol, after) ∧
      stack.Gains handle declaration symbol after := by
  have clear : stack.Clear handle declaration 8 := fun rank _ => none rank
  obtain ⟨scope, found⟩ := clear.exists_scope (by omega)
  have unnamed := clear.unnamed (by omega) indexed found
  have room := clear.room (by omega) found
  have hhandle := handle_of_scope? found
  let changed := (scope.afterAddress.add declaration scope.nextAddress).2
  have hdeclared : scope.declare declaration = .ok (scope.ref ⟨scope.size⟩, changed) :=
    Scope.declare_eq_ok_iff.mpr
      ⟨Scope.duplicateFault?_eq_none_of_lookup? unnamed, room, rfl, rfl⟩
  have hchanged : changed.handle = handle := hhandle
  refine ⟨scope.ref ⟨scope.size⟩, stack.put handle changed, ?_, rfl, rfl, ?_, ?_⟩
  · exact declare_eq_ok_iff.mpr ⟨scope, changed, found, clear.admits (by omega), hdeclared, rfl⟩
  · intro position hposition
    rw [scopes_put, List.getElem?_set_ne hposition.symm]
  · refine ⟨scope, changed, found, scope?_put_self found hchanged, ?_, ?_⟩
    · exact ⟨rfl, Scope.items_add _ _ _, unnamed, Scope.lookup?_add _ _ _,
        (Scope.nextAddress_of_declare hdeclared).2⟩
    · rw [Scope.ref, hhandle]

end Stack

/-- The declaration of any name in any scope of any stack whose name indexes point into their
stores, as a call. What is wrong with it is looked for in the order of the ranks, and the first
thing found is what the call is refused for; then the stack is the same as before. If nothing is
wrong, the call is answered with a new symbol, which is all that the stack gains. -/
theorem first_objection_decides (stack : Stack) (indexed : stack.Indexed) (handle : Handle)
    (declaration : Declaration) :
    let outcome := (Call.declare handle declaration).perform stack
    (∀ fault, outcome.1 = .refused fault ↔
      ∃ rank, stack.Objection handle declaration rank fault ∧
        ∀ earlier < rank, ∀ other, ¬ stack.Objection handle declaration earlier other) ∧
    (∀ fault, outcome.1 = .refused fault → outcome.2 = stack) ∧
    ((∀ rank fault, ¬ stack.Objection handle declaration rank fault) →
      ∃ symbol, outcome.1 = .declared symbol ∧
        stack.Gains handle declaration symbol outcome.2) := by
  intro outcome
  have hrefused : ∀ rank fault, stack.Objection handle declaration rank fault →
      stack.Clear handle declaration rank → outcome = (.refused fault, stack) := by
    intro rank fault objection clear
    simp only [outcome, Call.perform_declare,
      Stack.declare_of_objection indexed objection clear]
  have haccepted : (∀ rank fault, ¬ stack.Objection handle declaration rank fault) →
      ∃ symbol after, outcome = (.declared symbol, after) ∧
        stack.Gains handle declaration symbol after := by
    intro none
    obtain ⟨symbol, after, hdeclare, gains⟩ := Stack.exists_gains_of_no_objection indexed none
    refine ⟨symbol, after, ?_, gains⟩
    simp only [outcome, Call.perform_declare, hdeclare]
  -- A refusal is not the answer to a declaration without objections, so one of them decides.
  have hdecided : ∀ fault, outcome.1 = .refused fault →
      ∃ rank, stack.Objection handle declaration rank fault ∧
        stack.Clear handle declaration rank := by
    intro fault hfault
    by_cases none : ∀ rank fault, ¬ stack.Objection handle declaration rank fault
    · obtain ⟨symbol, after, houtcome, _⟩ := haccepted none
      rw [houtcome] at hfault
      simp at hfault
    · obtain ⟨rank, other, objection, clear⟩ :=
        Stack.exists_objection_of_lowest_rank (by simpa using none)
      rw [hrefused rank other objection clear, Answer.refused.injEq] at hfault
      exact ⟨rank, hfault ▸ objection, clear⟩
  refine ⟨?_, ?_, ?_⟩
  · intro fault
    constructor
    · exact hdecided fault
    · rintro ⟨rank, objection, clear⟩
      rw [hrefused rank fault objection clear]
  · intro fault hfault
    obtain ⟨rank, objection, clear⟩ := hdecided fault hfault
    rw [hrefused rank fault objection clear]
  · intro none
    obtain ⟨symbol, after, houtcome, gains⟩ := haccepted none
    rw [houtcome]
    exact ⟨symbol, rfl, gains⟩

/-- A stack that no run comes to. Its scope has no address left, but a name that it has already is
refused as a duplicate. -/
theorem first_objection_decides_in_full_scope :
    let first : Symbol := ⟨⟨"x", .int, .var, 5⟩, 3, 9⟩
    let scope : Scope := ⟨⟨7, 0⟩, ⟨[first]⟩, ⟨[("x", ⟨0⟩)]⟩, ⟨AddressCounter.limit⟩⟩
    let stack : Stack := { scopes := [scope] }
    let declaration : Declaration := ⟨"x", .char, .other "register", 6⟩
    stack.Indexed ∧ stack.Objection ⟨7, 0⟩ declaration 7 (.addressesExhausted ⟨7, 0⟩) ∧
      (Call.declare ⟨7, 0⟩ declaration).perform stack =
        (.refused (.duplicate "x" ⟨7, 0⟩ 5 6 ⟨⟨7, 0⟩, ⟨0⟩⟩), stack) := by
  intro first scope stack declaration
  have indexed : stack.Indexed := by
    intro other hother name id hname
    obtain rfl := List.mem_singleton.mp hother
    have hindex := (NameIndex.find?_insert {} "x" name ⟨0⟩).symm.trans hname
    have hid : (⟨0⟩ : Store.Id Symbol) = id := by
      split at hindex
      · exact Option.some.inj hindex
      · simp at hindex
    exact ⟨first, by rw [← hid]; rfl⟩
  have clear : stack.Clear ⟨7, 0⟩ declaration 6 := by
    intro earlier hlt other objection
    cases objection with
    | closed closed => exact absurd closed (by decide)
    | zeroLine zero => exact absurd zero (by decide)
    | emptyName empty => exact absurd empty (by decide)
    | longName long => exact absurd long (by decide)
    | longType custom => simp [declaration, TypeTag.custom?] at custom
    | longKind custom long =>
      obtain rfl := Option.some.inj custom
      exact absurd long (by decide)
    | duplicate => omega
    | exhausted => omega
  obtain ⟨hfault, hsame, _⟩ := first_objection_decides stack indexed ⟨7, 0⟩ declaration
  have hrefused := (hfault _).mpr ⟨6, .duplicate rfl rfl rfl, clear⟩
  exact ⟨indexed, .exhausted rfl rfl, Prod.ext hrefused (hsame _ hrefused)⟩

end Scoping
