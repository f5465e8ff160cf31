import Scoping.Proofs.Operations

namespace Scoping

/-- Everything that a declaration can be refused for. -/
inductive Stack.Refusal (stack : Stack) (handle : Handle) (declaration : Declaration) :
    Fault → Prop
  | closed (missing : stack.scope? handle = none) :
      Refusal stack handle declaration (.closedScope handle)
  | line (zero : declaration.line = 0) :
      Refusal stack handle declaration (.invalidLine declaration.name)
  | name {problem : NameProblem}
      (unfit : stack.limits.nameProblem? declaration.name = some problem) :
      Refusal stack handle declaration (.invalidName declaration.name declaration.line problem)
  | tag {tag : String} (kept : tag ∈ declaration.customTags)
      (long : stack.limits.maxTag < tag.utf8ByteSize) :
      Refusal stack handle declaration
        (.tagTooLong declaration.name tag declaration.line stack.limits.maxTag)
  | duplicate {scope : Scope} {id : Store.Id Symbol} {first : Symbol}
      (found : stack.scope? handle = some scope)
      (named : scope.lookup? declaration.name = some id) (stored : scope.get? id = some first) :
      Refusal stack handle declaration
        (.duplicate declaration.name scope.handle first.line declaration.line (scope.ref id))
  | exhausted {scope : Scope} (found : stack.scope? handle = some scope)
      (full : scope.nextAddress = AddressCounter.limit) :
      Refusal stack handle declaration (.addressesExhausted scope.handle)
  | missing {scope : Scope} {id : Store.Id Symbol} (found : stack.scope? handle = some scope)
      (named : scope.lookup? declaration.name = some id) (lost : scope.get? id = none) :
      Refusal stack handle declaration (.missingSymbol ⟨scope.size, id.index⟩)

theorem Declaration.customTags_eq (declaration : Declaration) :
    declaration.customTags =
      declaration.type.custom?.toList ++ declaration.kind.custom?.toList := by
  rw [customTags]
  cases declaration.type.custom? <;> cases declaration.kind.custom? <;> rfl

namespace Limits

variable {limits : Limits} {declaration : Declaration} {name : String} {line : Nat}

theorem nameProblem?_of_long (named : name ≠ "") (long : limits.maxName < name.utf8ByteSize) :
    limits.nameProblem? name = some (.tooLong name.utf8ByteSize limits.maxName) := by
  have hempty : ¬ name.isEmpty = true := by rwa [String.isEmpty_iff]
  rw [nameProblem?, if_neg hempty, if_pos long]

theorem tagFault?_of_long {tag : String} (long : limits.maxTag < tag.utf8ByteSize) :
    limits.tagFault? name line tag = some (.tagTooLong name tag line limits.maxTag) := by
  have hfits : limits.fitsTag tag = false := by
    rw [fitsTag, decide_eq_false_iff_not]
    omega
  rw [tagFault?, hfits]
  rfl

/-- Of several tags the first that is too long decides. -/
theorem tagsFault?_of_long {before after : List String} {tag : String}
    (fit : ∀ other ∈ before, other.utf8ByteSize ≤ limits.maxTag)
    (long : limits.maxTag < tag.utf8ByteSize) :
    limits.tagsFault? name line (before ++ tag :: after) =
      some (.tagTooLong name tag line limits.maxTag) := by
  have hbefore : before.findSome? (limits.tagFault? name line) = none :=
    tagsFault?_eq_none_iff.mpr fit
  rw [tagsFault?, List.findSome?_append, hbefore, Option.none_or, List.findSome?_cons,
    tagFault?_of_long long]

theorem declarationFault?_of_nameProblem? (line_ne : declaration.line ≠ 0) {problem : NameProblem}
    (unfit : limits.nameProblem? declaration.name = some problem) :
    limits.declarationFault? declaration =
      some (.invalidName declaration.name declaration.line problem) := by
  simp only [declarationFault?, if_neg line_ne, unfit]

theorem declarationFault?_of_tagsFault? (line_ne : declaration.line ≠ 0)
    (fit : limits.nameProblem? declaration.name = none) {fault : Fault}
    (long : limits.tagsFault? declaration.name declaration.line declaration.customTags =
      some fault) : limits.declarationFault? declaration = some fault := by
  simp only [declarationFault?, if_neg line_ne, fit, long]

end Limits

theorem Limits.exists_tag_of_tagsFault? {limits : Limits} {name : String} {line : Nat}
    {tags : List String} {fault : Fault} (h : limits.tagsFault? name line tags = some fault) :
    ∃ tag ∈ tags, limits.maxTag < tag.utf8ByteSize ∧
      fault = .tagTooLong name tag line limits.maxTag := by
  obtain ⟨tag, hmem, htag⟩ := List.exists_of_findSome?_eq_some h
  have hlong : limits.maxTag < tag.utf8ByteSize := by
    apply Nat.lt_of_not_le
    intro hfits
    rw [tagFault?_eq_none_iff.mpr hfits] at htag
    simp at htag
  refine ⟨tag, hmem, hlong, ?_⟩
  unfold tagFault? at htag
  split at htag
  · simp at htag
  · exact (Option.some.inj htag).symm

theorem Scope.nextAddress_of_takeAddress_error {scope : Scope} {fault : Fault}
    (h : scope.takeAddress = .error fault) :
    scope.nextAddress = AddressCounter.limit ∧ fault = .addressesExhausted scope.handle := by
  by_cases hstopped : scope.nextAddress = AddressCounter.limit
  · rw [takeAddress, tryTakeAddress_of_eq hstopped] at h
    exact ⟨hstopped, (Except.error.inj h).symm⟩
  · rw [takeAddress, tryTakeAddress_of_ne hstopped] at h
    simp [granted] at h

namespace Stack

variable {stack : Stack} {handle : Handle} {declaration : Declaration} {fault : Fault}

theorem declare_of_declarationFault? {scope : Scope} (found : stack.scope? handle = some scope)
    (h : stack.limits.declarationFault? declaration = some fault) :
    stack.declare handle declaration = .error fault := by
  simp only [declare_eq, found, h]

theorem refusal_of_declarationFault?
    (h : stack.limits.declarationFault? declaration = some fault) :
    stack.Refusal handle declaration fault := by
  unfold Limits.declarationFault? at h
  split at h
  · next hline =>
    rw [← Option.some.inj h]
    exact .line hline
  · split at h
    · next problem hproblem =>
      rw [← Option.some.inj h]
      exact .name hproblem
    · obtain ⟨tag, hkept, hlong, rfl⟩ := Limits.exists_tag_of_tagsFault? h
      exact .tag hkept hlong

theorem refusal_of_duplicateFault? {scope : Scope} (found : stack.scope? handle = some scope)
    (h : scope.duplicateFault? declaration = some fault) :
    stack.Refusal handle declaration fault := by
  cases named : scope.lookup? declaration.name with
  | none => simp [Scope.duplicateFault?_eq_none_of_lookup? named] at h
  | some id =>
    cases stored : scope.get? id with
    | some first =>
      rw [Scope.duplicateFault?_of_lookup? named stored] at h
      rw [← Option.some.inj h]
      exact .duplicate found named stored
    | none =>
      rw [Scope.duplicateFault?_of_get?_eq_none named stored] at h
      rw [← Option.some.inj h]
      exact .missing found named stored

theorem refusal_of_scope_declare {scope : Scope} (found : stack.scope? handle = some scope)
    (h : scope.declare declaration = .error fault) : stack.Refusal handle declaration fault := by
  rw [Scope.declare_eq] at h
  split at h
  · next hduplicate =>
    rw [← Except.error.inj h]
    exact refusal_of_duplicateFault? found hduplicate
  · split at h
    · next htake =>
      obtain ⟨hfull, hfault⟩ := Scope.nextAddress_of_takeAddress_error htake
      rw [← Except.error.inj h, hfault]
      exact .exhausted found hfull
    · simp at h

theorem refusal_of_declare (h : stack.declare handle declaration = .error fault) :
    stack.Refusal handle declaration fault := by
  rw [declare_eq] at h
  split at h
  · next hmissing =>
    rw [← Except.error.inj h]
    exact .closed hmissing
  · next scope hfound =>
    split at h
    · next hfault =>
      rw [← Except.error.inj h]
      exact refusal_of_declarationFault? hfault
    · split at h
      · next hdeclare =>
        rw [← Except.error.inj h]
        exact refusal_of_scope_declare hfound hdeclare
      · simp at h

end Stack

end Scoping
