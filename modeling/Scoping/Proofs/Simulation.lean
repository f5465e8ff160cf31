import Scoping.Proofs.Abstraction
import Scoping.Proofs.Reading
import Scoping.Proofs.Refusals

namespace Scoping

namespace Stack

variable {stack : Stack} {outer : List Scope} {scope : Scope}

theorem innermost_concat (h : stack.scopes = outer ++ [scope]) :
    stack.innermost = .ok scope.handle := by
  rw [innermost_eq_ok_iff, h, List.getLast?_concat]
  rfl

theorem Aligned.scope?_concat (aligned : stack.Aligned) (h : stack.scopes = outer ++ [scope]) :
    stack.scope? scope.handle = some scope := by
  apply aligned.scope?_eq_some_iff_mem.mpr
  rw [h]
  exact ⟨List.mem_concat_self, rfl⟩

/-- Replacing the innermost scope leaves the others in front of it. -/
theorem Aligned.scopes_put_concat (aligned : stack.Aligned) (h : stack.scopes = outer ++ [scope])
    (changed : Scope) : (stack.put scope.handle changed).scopes = outer ++ [changed] := by
  have hdepth : scope.handle.depth = outer.length := by
    apply aligned
    rw [h, List.getElem?_concat_length]
  rw [scopes_put, h, hdepth, List.set_append_right _ _ (Nat.le_refl _), Nat.sub_self]
  rfl

/-- What holds of the stack of a replay that comes to the given line: no address went anywhere but
to a symbol, and scopes were opened and symbols declared on earlier lines only. -/
structure Replayed (line : Nat) (stack : Stack) : Prop where
  aligned : stack.Aligned
  sound : stack.Sound
  dense : ∀ scope ∈ stack.scopes, scope.Dense
  nextSerial_lt : stack.nextSerial.toNat < line
  size_lt : ∀ scope ∈ stack.scopes, scope.size < line

namespace Replayed

variable {line : Nat}

theorem start (limits : Limits) : Replayed 1 { limits } where
  aligned := aligned_performAll limits []
  sound := (sound_performAll limits []).2
  dense scope h := by simp at h
  nextSerial_lt := Nat.zero_lt_one
  size_lt scope h := by simp at h

theorem idle (replayed : stack.Replayed line) : stack.Replayed (line + 1) where
  aligned := replayed.aligned
  sound := replayed.sound
  dense := replayed.dense
  nextSerial_lt := by
    have hserial := replayed.nextSerial_lt
    omega
  size_lt scope h := by
    have hsize := replayed.size_lt scope h
    omega

theorem line_pos (replayed : stack.Replayed line) : 1 ≤ line := by
  have hlt := replayed.nextSerial_lt
  omega

/-- In an open scope addresses are left, since symbols alone took some. -/
theorem nextAddress_ne_limit (replayed : stack.Replayed line)
    (room : line ≤ AddressCounter.limit.toNat) (h : scope ∈ stack.scopes) :
    scope.nextAddress ≠ AddressCounter.limit := by
  intro hlimit
  have hsize := replayed.size_lt scope h
  rw [← (replayed.dense scope h).nextAddress_eq, hlimit] at hsize
  omega

theorem toNat_nextSerial_enter (replayed : stack.Replayed line) (room : line < UInt64.size) :
    stack.enter.2.nextSerial.toNat = stack.nextSerial.toNat + 1 := by
  have hlt := replayed.nextSerial_lt
  show (stack.nextSerial + 1).toNat = _
  rw [UInt64.toNat_add, UInt64.toNat_one]
  exact Nat.mod_eq_of_lt (Nat.lt_of_le_of_lt hlt room)

theorem enter (replayed : stack.Replayed line) (room : line < UInt64.size) :
    stack.enter.2.Replayed (line + 1) := by
  have hlt := replayed.nextSerial_lt
  have hnext := replayed.toNat_nextSerial_enter room
  refine ⟨replayed.aligned.enter, replayed.sound.step .enter, ?_, by omega, ?_⟩
  · intro other hother
    rw [scopes_enter, List.mem_append, List.mem_singleton] at hother
    rcases hother with hother | rfl
    · exact replayed.dense other hother
    · exact Scope.Dense.empty _
  · intro other hother
    rw [scopes_enter, List.mem_append, List.mem_singleton] at hother
    rcases hother with hother | rfl
    · exact replayed.idle.size_lt other hother
    · exact Nat.succ_pos line

theorem exit (replayed : stack.Replayed line) {handle : Handle}
    (innermost : stack.innermost = .ok handle) :
    Replayed (line + 1) { stack with scopes := stack.scopes.dropLast } := by
  have step : Step stack _ _ := .exit innermost
  refine ⟨replayed.aligned.step step, replayed.sound.step step, ?_,
    replayed.idle.nextSerial_lt, ?_⟩
  · intro other hother
    exact replayed.dense other (List.dropLast_subset _ hother)
  · intro other hother
    exact replayed.idle.size_lt other (List.dropLast_subset _ hother)

theorem declare (replayed : stack.Replayed line) {handle : Handle} {declaration : Declaration}
    {changed : Scope} {symbol : SymbolRef} (found : stack.scope? handle = some scope)
    (admits : stack.limits.Admits declaration)
    (declared : scope.declare declaration = .ok (symbol, changed)) :
    (stack.put handle changed).Replayed (line + 1) := by
  have step : Step stack ⟨.declare handle declaration, _⟩ _ := .declare rfl found admits declared
  have hmem := mem_of_scope? found
  refine ⟨replayed.aligned.step step, replayed.sound.step step, ?_,
    replayed.idle.nextSerial_lt, ?_⟩
  · intro other hother
    rcases List.mem_or_eq_of_mem_set hother with hother | rfl
    · exact replayed.dense other hother
    · exact (replayed.dense scope hmem).declare declared
  · intro other hother
    rcases List.mem_or_eq_of_mem_set hother with hother | rfl
    · exact replayed.idle.size_lt other hother
    · have hsize := replayed.size_lt scope hmem
      rw [Scope.size_of_declare declared]
      omega

end Replayed

end Stack

namespace Script

variable {stack : Stack} {line : Nat}

theorem resolveFrames_ofStack (replayed : stack.Replayed line) (name : String) :
    resolveFrames name (Frames.ofStack stack).inner =
      (stack.resolve name).bind fun found =>
        (stack.get? found).map (Resolution.ofSymbol found) := by
  apply resolveFrames_map_ofScope (nested_of_aligned replayed.aligned)
  · intro scope hscope
    exact replayed.sound scope (List.mem_reverse.mp hscope)
  · intro scope hscope id
    have hfound : stack.scope? scope.handle = some scope :=
      replayed.aligned.scope?_eq_some_iff_mem.mpr ⟨List.mem_reverse.mp hscope, rfl⟩
    rw [Stack.get?, Scope.ref, hfound]
    rfl

theorem dump_ofStack (replayed : stack.Replayed line) :
    (Frames.ofStack stack).dump = stack.dump := by
  have hframes := dumpFrames_map_ofScope (nested_of_aligned replayed.aligned)
    (fun scope h => replayed.sound scope (List.mem_reverse.mp h))
    (fun scope h => replayed.dense scope (List.mem_reverse.mp h))
  rw [List.reverse_reverse] at hframes
  have hempty : (Frames.ofStack stack).inner.isEmpty = stack.scopes.isEmpty := by
    simp [Frames.ofStack]
  rw [Frames.dump, Stack.dump, hempty, Frames.ofStack, hframes]

theorem text_ofSymbol (replayed : stack.Replayed line) (name : String) {found : SymbolRef}
    {symbol : Symbol} (h : stack.get? found = some symbol) :
    (Resolution.ofSymbol found symbol).text name = resolutionText name found symbol := by
  obtain ⟨scope, hscope, hsymbol⟩ := Option.bind_eq_some_iff.mp h
  have haddress : symbol.address.toNat = symbol.index :=
    (replayed.dense scope (Stack.mem_of_scope? hscope)).address_eq symbol
      (Scope.mem_items_of_get? hsymbol)
  rw [resolutionText, haddress]
  rfl

section Declare

variable {limits : Limits} {name type kind : String}

/-- The tags of a `declare` command are measured as the frame measures them: the type, then the
kind. -/
theorem tagsFault?_or_fits (limits : Limits) (frame : Frame) (line : Nat)
    (name type kind : String) :
    (∃ fault, limits.tagsFault? name line [type, kind] = some fault ∧
      fault.isStructural = false ∧
      frame.refusal? limits line name type kind = some fault.report) ∨
    (limits.tagsFault? name line [type, kind] = none ∧
      type.utf8ByteSize ≤ limits.maxTag ∧ kind.utf8ByteSize ≤ limits.maxTag) := by
  by_cases htype : limits.maxTag < type.utf8ByteSize
  · refine Or.inl ⟨.tagTooLong name type line limits.maxTag, ?_, rfl, ?_⟩
    · exact Limits.tagsFault?_of_long (List.forall_mem_nil _) htype
    · rw [Frame.refusal?, if_pos htype, longTagReport_eq]
  have htype := Nat.not_lt.mp htype
  by_cases hkind : limits.maxTag < kind.utf8ByteSize
  · refine Or.inl ⟨.tagTooLong name kind line limits.maxTag, ?_, rfl, ?_⟩
    · exact Limits.tagsFault?_of_long (List.forall_mem_singleton.mpr htype) hkind
    · rw [Frame.refusal?, if_neg (Nat.not_lt.mpr htype), if_pos hkind, longTagReport_eq]
  have hkind := Nat.not_lt.mp hkind
  refine Or.inr ⟨?_, htype, hkind⟩
  apply Limits.tagsFault?_eq_none_iff.mpr
  simp [htype, hkind]

theorem declarationFault?_of_long (line_pos : 1 ≤ line) (named : name ≠ "")
    (h : limits.maxName < name.utf8ByteSize) :
    limits.declarationFault? (declaration name type kind line) =
      some (.invalidName name line (.tooLong name.utf8ByteSize limits.maxName)) := by
  have hline : line ≠ 0 := by omega
  exact Limits.declarationFault?_of_nameProblem? hline (Limits.nameProblem?_of_long named h)

/-- Tags that fit as they were written fit as they are kept. -/
theorem admits_declaration (line_pos : 1 ≤ line) (named : name ≠ "")
    (name_fits : name.utf8ByteSize ≤ limits.maxName) (type_fits : type.utf8ByteSize ≤ limits.maxTag)
    (kind_fits : kind.utf8ByteSize ≤ limits.maxTag) :
    limits.Admits (declaration name type kind line) := by
  refine ⟨line_pos, named, name_fits, ?_⟩
  intro tag htag
  have htags := mem_of_mem_customTags htag
  rw [List.mem_pair] at htags
  rcases htags with rfl | rfl
  · exact type_fits
  · exact kind_fits

variable {outer : List Scope} {scope : Scope}

/-- With tags that fit, a declaration is refused with the report that the frame of the innermost
scope makes, or the frame has nothing to report and the scope accepts. -/
theorem declare_concat (replayed : stack.Replayed line) (room : line ≤ AddressCounter.limit.toNat)
    (named : name ≠ "") (type_fits : type.utf8ByteSize ≤ stack.limits.maxTag)
    (kind_fits : kind.utf8ByteSize ≤ stack.limits.maxTag) (h : stack.scopes = outer ++ [scope]) :
    (∃ fault, stack.declare scope.handle (declaration name type kind line) = .error fault ∧
      fault.isStructural = false ∧
      (Frame.ofScope scope).refusal? stack.limits line name type kind = some fault.report) ∨
    (∃ symbol after, scope.declare (declaration name type kind line) = .ok (symbol, after) ∧
      stack.limits.Admits (declaration name type kind line) ∧
      (Frame.ofScope scope).refusal? stack.limits line name type kind = none) := by
  have hmem : scope ∈ stack.scopes := by
    rw [h]
    exact List.mem_concat_self
  have hfound := replayed.aligned.scope?_concat h
  simp only [Stack.declare_eq, hfound, Frame.refusal?, if_neg (Nat.not_lt.mpr type_fits),
    if_neg (Nat.not_lt.mpr kind_fits)]
  by_cases hname : stack.limits.maxName < name.utf8ByteSize
  · refine Or.inl ⟨.invalidName name line (.tooLong name.utf8ByteSize stack.limits.maxName), ?_,
      rfl, ?_⟩
    · rw [declarationFault?_of_long replayed.line_pos named hname]
    · rw [if_pos hname, longNameReport_eq]
  have hadmits := admits_declaration replayed.line_pos named (Nat.not_lt.mp hname) type_fits
    kind_fits
  rw [if_neg hname, Limits.declarationFault?_eq_none_iff.mpr hadmits]
  -- Only the scope itself is left to ask, and it looks at the name alone.
  rcases Frame.declare_of_ofScope (replayed.sound scope hmem)
      (replayed.nextAddress_ne_limit room hmem) (declaration name type kind line) with
    ⟨first, index, fault, hfind, hfault, hsemantic, hreport⟩ | ⟨hfind, symbol, after, hdeclared⟩
  · have hfind : (Frame.ofScope scope).find? name = some (first, index) := hfind
    refine Or.inl ⟨fault, ?_, hsemantic, ?_⟩
    · rw [hfault]
    · rw [hfind, hreport]
      rfl
  · have hfind : (Frame.ofScope scope).find? name = none := hfind
    refine Or.inr ⟨symbol, after, hdeclared, hadmits, ?_⟩
    rw [hfind]
    rfl

end Declare

/-- A command on a stack and on the frames of the stack: both go on alike, both refuse the command
with the same report, or neither finds a scope to work on. -/
inductive InStep (stack : Stack) (line : Nat) (command : Command) : Prop
  | goes (after : Stack) (text : String) (run : command.run stack line = .ok (after, text))
      (frames : (Frames.ofStack stack).run stack.limits line command =
        some (Frames.ofStack after, text, []))
      (limits : after.limits = stack.limits) (replayed : after.Replayed (line + 1))
  | refuses (fault : Fault) (run : command.run stack line = .error fault)
      (semantic : fault.isStructural = false)
      (frames : (Frames.ofStack stack).run stack.limits line command =
        some (Frames.ofStack stack, "", [fault.report]))
  | aborts (run : command.run stack line = .error .noOpenScope)
      (frames : (Frames.ofStack stack).run stack.limits line command = none)

theorem inner_ofStack_nil (h : stack.scopes = []) : (Frames.ofStack stack).inner = [] := by
  rw [Frames.ofStack, h]
  rfl

theorem inner_ofStack_concat {outer : List Scope} {scope : Scope}
    (h : stack.scopes = outer ++ [scope]) :
    (Frames.ofStack stack).inner = Frame.ofScope scope :: outer.reverse.map Frame.ofScope := by
  rw [Frames.ofStack, h, List.reverse_concat, List.map_cons]

theorem inStep_enter (replayed : stack.Replayed line) (room : line < UInt64.size) :
    InStep stack line .enter := by
  have hnext := replayed.toNat_nextSerial_enter room
  refine .goes _ "" rfl ?_ rfl (replayed.enter room)
  have hframes : Frames.ofStack stack.enter.2 = (Frames.ofStack stack).enter := by
    rw [Frames.ofStack, hnext, Stack.scopes_enter, List.reverse_concat, List.map_cons]
    rfl
  rw [Frames.run, hframes]

theorem inStep_exit (replayed : stack.Replayed line) : InStep stack line .exit := by
  rcases List.eq_nil_or_concat stack.scopes with hnil | ⟨outer, scope, hconcat⟩
  · refine .aborts ?_ ?_
    · rw [Command.run, Command.runExit, Stack.innermost_eq_error_iff.mpr ⟨hnil, rfl⟩]
      rfl
    · rw [Frames.run, inner_ofStack_nil hnil]
  · rw [List.concat_eq_append] at hconcat
    have hinnermost := Stack.innermost_concat hconcat
    have hexit : stack.exit scope.handle =
        .ok { stack with scopes := stack.scopes.dropLast } :=
      Stack.exit_eq_ok_iff.mpr ⟨hinnermost, rfl⟩
    refine .goes { stack with scopes := stack.scopes.dropLast } "" ?_ ?_ rfl
      (replayed.exit hinnermost)
    · rw [Command.run, Command.runExit, hinnermost]
      simp only [hexit]
      rfl
    · rw [Frames.run, inner_ofStack_concat hconcat, hconcat, List.dropLast_concat]
      rfl

theorem inStep_resolve (replayed : stack.Replayed line) (name : String) :
    InStep stack line (.resolve name) := by
  have hframes := resolveFrames_ofStack replayed name
  cases hresolve : stack.resolve name with
  | none =>
    rw [hresolve] at hframes
    refine .refuses (.unresolved name line) ?_ rfl ?_
    · rw [Command.run, Command.runResolve, hresolve]
      rfl
    · simp only [Frames.run, hframes, Option.bind_none, unresolvedReport_eq]
  | some found =>
    obtain ⟨symbol, hsymbol, _⟩ := replayed.sound.get?_of_resolve replayed.aligned hresolve
    rw [hresolve, Option.bind_some, hsymbol, Option.map_some] at hframes
    refine .goes stack (resolutionText name found symbol) ?_ ?_ rfl replayed.idle
    · rw [Command.run, Command.runResolve, hresolve]
      simp only [hsymbol]
      rfl
    · rw [Frames.run, hframes]
      simp only [text_ofSymbol replayed name hsymbol]

theorem inStep_dump (replayed : stack.Replayed line) : InStep stack line .dump := by
  refine .goes stack stack.dump rfl ?_ rfl replayed.idle
  rw [Frames.run, dump_ofStack replayed]

theorem inStep_of_refusal? {name type kind : String} {outer : List Scope} {scope : Scope}
    {fault : Fault} (h : stack.scopes = outer ++ [scope]) (semantic : fault.isStructural = false)
    (run : Command.runDeclare stack line name type kind = .error fault)
    (refusal : (Frame.ofScope scope).refusal? stack.limits line name type kind =
      some fault.report) : InStep stack line (.declare name type kind) := by
  refine .refuses fault ?_ semantic ?_
  · rw [Command.run, run]
    rfl
  · rw [Frames.run, inner_ofStack_concat h]
    simp only [refusal]

theorem inStep_declare (replayed : stack.Replayed line)
    (room : line ≤ AddressCounter.limit.toNat) {name : String} (named : name ≠ "")
    (type kind : String) : InStep stack line (.declare name type kind) := by
  rcases List.eq_nil_or_concat stack.scopes with hnil | ⟨outer, scope, hconcat⟩
  · refine .aborts ?_ ?_
    · rw [Command.run, Command.runDeclare, Stack.innermost_eq_error_iff.mpr ⟨hnil, rfl⟩]
      rfl
    · rw [Frames.run, inner_ofStack_nil hnil]
  rw [List.concat_eq_append] at hconcat
  have hinnermost := Stack.innermost_concat hconcat
  -- The order of the checks is that of the frame: first the tags, then everything else.
  rcases tagsFault?_or_fits stack.limits (Frame.ofScope scope) line name type kind with
    ⟨fault, htags, hsemantic, hrefusal⟩ | ⟨htags, htype, hkind⟩
  · apply inStep_of_refusal? hconcat hsemantic _ hrefusal
    rw [Command.runDeclare, hinnermost]
    simp only [htags]
  rcases declare_concat replayed room named htype hkind hconcat with
    ⟨fault, hfault, hsemantic, hrefusal⟩ | ⟨symbol, after, hdeclared, hadmits, hrefusal⟩
  · apply inStep_of_refusal? hconcat hsemantic _ hrefusal
    rw [Command.runDeclare, hinnermost]
    simp only [htags, hfault]
    rfl
  have hfound := replayed.aligned.scope?_concat hconcat
  have haccepted := Stack.declare_eq_ok_iff.mpr ⟨scope, after, hfound, hadmits, hdeclared, rfl⟩
  refine .goes (stack.put scope.handle after) "" ?_ ?_ rfl
    (replayed.declare hfound hadmits hdeclared)
  · rw [Command.run, Command.runDeclare, hinnermost]
    simp only [htags, haccepted]
    rfl
  · have hafter := inner_ofStack_concat (replayed.aligned.scopes_put_concat hconcat after)
    rw [Frame.ofScope_of_declare hdeclared] at hafter
    rw [Frames.run, inner_ofStack_concat hconcat]
    simp only [hrefusal, Frames.ofStack] at hafter ⊢
    rw [hafter]
    rfl

/-- Every command whose operands are words keeps a stack and its frames in step. -/
theorem inStep (replayed : stack.Replayed line) (room : line ≤ AddressCounter.limit.toNat)
    (command : Command) (words : ∀ operand ∈ command.operands, operand ≠ "") :
    InStep stack line command := by
  cases command with
  | enter =>
    apply inStep_enter replayed
    have := AddressCounter.toNat_limit_succ
    omega
  | exit => exact inStep_exit replayed
  | declare name type kind =>
    exact inStep_declare replayed room (words name List.mem_cons_self) type kind
  | resolve name => exact inStep_resolve replayed name
  | dump => exact inStep_dump replayed

end Script

end Scoping
