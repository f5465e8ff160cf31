import Scoping.Proofs.Frames
import Scoping.Proofs.Registry
import Scoping.Proofs.Resolution

namespace Scoping

/-- Every address went to a symbol, so addresses are positions. -/
structure Scope.Dense (scope : Scope) : Prop where
  nextAddress_eq : scope.nextAddress.toNat = scope.size
  address_eq : ∀ symbol ∈ scope.symbols.items, symbol.address.toNat = symbol.index

namespace Scope

variable {limits : Limits} {scope after : Scope} {declaration : Declaration} {symbol : SymbolRef}

theorem Dense.empty (handle : Handle) : Dense { handle } where
  nextAddress_eq := rfl
  address_eq := by simp [Store.empty]

theorem Dense.declare (dense : scope.Dense)
    (h : scope.declare declaration = .ok (symbol, after)) : after.Dense := by
  obtain ⟨_, room, _, rfl⟩ := declare_eq_ok_iff.mp h
  have hnext := toNat_nextAddress_afterAddress room
  have hsize := dense.nextAddress_eq
  refine ⟨?_, ?_⟩
  · rw [size_add, size_afterAddress]
    show scope.afterAddress.nextAddress.toNat = scope.size + 1
    omega
  · rw [forall_mem_items_add]
    exact ⟨dense.address_eq, hsize⟩

theorem size_of_declare (h : scope.declare declaration = .ok (symbol, after)) :
    after.size = scope.size + 1 := by
  obtain ⟨_, _, _, rfl⟩ := declare_eq_ok_iff.mp h
  rw [size_add, size_afterAddress]

theorem Sound.index_getElem (sound : scope.Sound limits) {position : Nat}
    (h : position < scope.symbols.items.length) :
    (scope.symbols.items[position]).index = position :=
  sound.index_eq ⟨position⟩ _ (List.getElem?_eq_getElem h)

end Scope

namespace Script

def Frame.ofScope (scope : Scope) : Frame where
  serial := scope.handle.serial.toNat
  declarations := scope.symbols.items.map Symbol.toDeclaration

def Frames.ofStack (stack : Stack) : Frames where
  inner := stack.scopes.reverse.map Frame.ofScope
  entered := stack.nextSerial.toNat

def Resolution.ofSymbol (found : SymbolRef) (symbol : Symbol) : Resolution where
  serial := found.scope.serial.toNat
  depth := found.scope.depth
  index := symbol.index
  declaration := symbol.toDeclaration

theorem tableRow_eq_dumpRow (index name type address line kind : String) :
    tableRow index name type address line kind = dumpRow index name type address line kind := by
  have hpadded (width : Nat) (text : String) : padded width text = Text.column width text := rfl
  have hstring (text : String) : toString text = text := rfl
  unfold tableRow dumpRow
  simp only [hpadded, hstring, String.append_assoc]

theorem malformedReport_eq (fault : LineFault) : malformedReport fault = fault.report := by
  cases fault <;> rfl

theorem noFrameReport_eq (line : Nat) : noFrameReport line = Fault.noOpenScope.report.atLine line :=
  rfl

theorem unresolvedReport_eq (name : String) (line : Nat) :
    unresolvedReport name line = (Fault.unresolved name line).report :=
  rfl

theorem longTagReport_eq (name tag : String) (line max : Nat) :
    longTagReport name tag line max = (Fault.tagTooLong name tag line max).report :=
  rfl

theorem longNameReport_eq (name : String) (line max : Nat) :
    longNameReport name line max =
      (Fault.invalidName name line (.tooLong name.utf8ByteSize max)).report :=
  rfl

namespace Frame

variable {limits : Limits} {scope after : Scope} {name : String}

theorem ofScope_of_declare {declaration : Declaration} {symbol : SymbolRef}
    (h : scope.declare declaration = .ok (symbol, after)) :
    ofScope after = (ofScope scope).add declaration := by
  obtain ⟨_, _, _, rfl⟩ := Scope.declare_eq_ok_iff.mp h
  rw [ofScope, Scope.items_add, List.map_append]
  rfl

/-- Names occur once, so the first declaration of a name is the one that the index leads to. -/
theorem find?_ofScope_of_lookup? (sound : scope.Sound limits) {id : Store.Id Symbol}
    {first : Symbol} (hid : scope.lookup? name = some id) (hfirst : scope.get? id = some first) :
    (ofScope scope).find? name = some (first.toDeclaration, id.index) := by
  obtain ⟨hlt, hitem⟩ := List.getElem?_eq_some_iff.mp hfirst
  have hname : first.name = name := by
    obtain ⟨symbol, hsymbol, hname⟩ := sound.get?_of_lookup? hid
    rw [hfirst, Option.some.injEq] at hsymbol
    rw [hsymbol]
    exact hname
  rw [find?, List.find?_eq_some_iff_getElem]
  refine ⟨by simpa using hname, id.index, by simpa [ofScope] using hlt, ?_, ?_⟩
  · simp [ofScope, hitem]
  · intro position hposition
    -- An earlier declaration of the name would be what the index leads to.
    have hbefore : position < scope.symbols.items.length := Nat.lt_trans hposition hlt
    have hne : (scope.symbols.items[position]).name ≠ name := by
      intro hsame
      have hother := (sound.lookup?_eq_some_iff name ⟨position⟩).mpr
        ⟨_, List.getElem?_eq_getElem hbefore, hsame⟩
      rw [hid, Option.some.injEq] at hother
      rw [hother] at hposition
      exact Nat.lt_irrefl _ hposition
    simpa [ofScope] using hne

theorem find?_ofScope_of_lookup?_eq_none (sound : scope.Sound limits)
    (h : scope.lookup? name = none) : (ofScope scope).find? name = none := by
  rw [find?, List.find?_eq_none]
  intro entry hentry
  obtain ⟨position, hposition, rfl⟩ := List.mem_iff_getElem.mp hentry
  have hlt : position < scope.symbols.items.length := by simpa [ofScope] using hposition
  have hne : (scope.symbols.items[position]).name ≠ name := by
    intro hsame
    have hfound := (sound.lookup?_eq_some_iff name ⟨position⟩).mpr
      ⟨_, List.getElem?_eq_getElem hlt, hsame⟩
    rw [h] at hfound
    simp at hfound
  simpa [ofScope] using hne

/-- A scope with addresses left refuses a declaration for the name alone: it is refused if the frame
has the name, and the report points at the first declaration of it. -/
theorem declare_of_ofScope (sound : scope.Sound limits)
    (room : scope.nextAddress ≠ AddressCounter.limit) (declaration : Declaration) :
    (∃ first index fault, (ofScope scope).find? declaration.name = some (first, index) ∧
      scope.declare declaration = .error fault ∧ fault.isStructural = false ∧
      fault.report = duplicateReport declaration.name first.line declaration.line) ∨
    ((ofScope scope).find? declaration.name = none ∧
      ∃ symbol after, scope.declare declaration = .ok (symbol, after)) := by
  cases hid : scope.lookup? declaration.name with
  | some id =>
    obtain ⟨first, hfirst, _⟩ := sound.get?_of_lookup? hid
    have hfind := find?_ofScope_of_lookup? sound hid hfirst
    have hfault := Scope.duplicateFault?_of_lookup? hid hfirst
    refine Or.inl ⟨first.toDeclaration, id.index, .duplicate declaration.name scope.handle
      first.line declaration.line (scope.ref id), hfind, ?_, rfl, rfl⟩
    simp only [Scope.declare_eq, hfault]
  | none =>
    have hfind := find?_ofScope_of_lookup?_eq_none sound hid
    have hfault := Scope.duplicateFault?_eq_none_of_lookup? hid
    exact Or.inr ⟨hfind, _, _, Scope.declare_eq_ok_iff.mpr ⟨hfault, room, rfl, rfl⟩⟩

/-- Both print the same rows, with positions for indices and addresses. -/
theorem dump_ofScope (sound : scope.Sound limits) (dense : scope.Dense) :
    (ofScope scope).dump scope.handle.depth = scope.dump := by
  have hrows : (ofScope scope).declarations.zipIdx.map (fun entry =>
      tableRow (toString entry.2) entry.1.name entry.1.type.spelling (toString entry.2)
        (toString entry.1.line) entry.1.kind.spelling) =
      scope.symbols.items.map Symbol.dump := by
    apply List.ext_getElem
    · simp [ofScope]
    · intro position _ hlt
      have hlt : position < scope.symbols.items.length := by simpa using hlt
      have hindex := sound.index_getElem hlt
      have haddress := dense.address_eq _ (List.getElem_mem hlt)
      simp [ofScope, Symbol.dump, tableRow_eq_dumpRow, haddress, hindex]
  have hempty : (ofScope scope).declarations.isEmpty = scope.isEmpty := by
    simp [ofScope, Scope.isEmpty, Store.isEmpty]
  rw [dump, hrows, hempty, tableRow_eq_dumpRow]
  rfl

end Frame

/-- Innermost first, the depth of every scope is the number of scopes around it. -/
def Nested : List Scope → Prop
  | [] => True
  | scope :: outer => scope.handle.depth = outer.length ∧ Nested outer

theorem nested_of_depths {inner : List Scope}
    (depths : inner.map (fun scope => scope.handle.depth) = (List.range inner.length).reverse) :
    Nested inner := by
  induction inner with
  | nil => trivial
  | cons scope outer ih =>
    rw [List.length_cons, List.range_succ, List.reverse_append, List.map_cons] at depths
    obtain ⟨hdepth, hdepths⟩ := List.cons.inj depths
    exact ⟨hdepth, ih hdepths⟩

theorem nested_of_aligned {stack : Stack} (aligned : stack.Aligned) :
    Nested stack.scopes.reverse := by
  apply nested_of_depths
  rw [List.map_reverse, aligned.depths, List.length_reverse]
  rfl

section Lists

variable {limits : Limits} {inner : List Scope} {name : String}

theorem resolveFrames_map_ofScope {get? : SymbolRef → Option Symbol} (nested : Nested inner)
    (sound : ∀ scope ∈ inner, scope.Sound limits)
    (symbols : ∀ scope ∈ inner, ∀ id, get? (scope.ref id) = scope.get? id) :
    resolveFrames name (inner.map Frame.ofScope) =
      (inner.findSome? fun scope => scope.lookupRef? name).bind fun found =>
        (get? found).map (Resolution.ofSymbol found) := by
  induction inner with
  | nil => rfl
  | cons scope outer ih =>
    obtain ⟨hdepth, hnested⟩ := nested
    have hsound := sound scope List.mem_cons_self
    have houter := ih hnested (fun other h => sound other (List.mem_cons_of_mem _ h))
      (fun other h => symbols other (List.mem_cons_of_mem _ h))
    rw [List.map_cons, resolveFrames, List.findSome?_cons, List.length_map]
    cases hid : scope.lookup? name with
    | none =>
      rw [Frame.find?_ofScope_of_lookup?_eq_none hsound hid, Scope.lookupRef?, hid]
      exact houter
    | some id =>
      obtain ⟨first, hfirst, _⟩ := hsound.get?_of_lookup? hid
      have hindex := hsound.index_eq id first hfirst
      have hget : get? (scope.ref id) = some first := by
        rw [symbols scope List.mem_cons_self id]
        exact hfirst
      rw [Frame.find?_ofScope_of_lookup? hsound hid hfirst, Scope.lookupRef?, hid, ← hdepth,
        ← hindex]
      show _ = (get? (scope.ref id)).map (Resolution.ofSymbol (scope.ref id))
      rw [hget]
      rfl

theorem dumpFrames_map_ofScope (nested : Nested inner)
    (sound : ∀ scope ∈ inner, scope.Sound limits) (dense : ∀ scope ∈ inner, scope.Dense) :
    dumpFrames (inner.map Frame.ofScope) = String.join (inner.reverse.map Scope.dump) := by
  induction inner with
  | nil => rfl
  | cons scope outer ih =>
    obtain ⟨hdepth, hnested⟩ := nested
    have houter := ih hnested (fun other h => sound other (List.mem_cons_of_mem _ h))
      (fun other h => dense other (List.mem_cons_of_mem _ h))
    have hscope := Frame.dump_ofScope (sound scope List.mem_cons_self)
      (dense scope List.mem_cons_self)
    rw [List.map_cons, dumpFrames, houter, List.length_map, ← hdepth, hscope, List.reverse_cons,
      List.map_append, String.join_append, List.map_singleton, String.join_cons, String.join_nil,
      String.append_empty]

end Lists

end Script

end Scoping
