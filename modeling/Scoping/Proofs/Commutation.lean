import Scoping.Proofs.Delivery
import Scoping.Proofs.Evolution

namespace Scoping

/-- The scope that a call declares in or takes an address of. -/
def Call.target? : Call → Option Handle
  | declare scope _ | declareReporting scope _ | takeAddress scope => some scope
  | enter | exit _ | resolve _ | resolveReporting .. => none

namespace Stack

variable {stack other : Stack} {handle handle' : Handle} {scope scope' changed changed' : Scope}

/-- Two open scopes can be replaced in any order. -/
theorem put_comm (found : stack.scope? handle = some scope)
    (found' : stack.scope? handle' = some scope') (apart : handle ≠ handle') :
    (stack.put handle changed).put handle' changed' =
      (stack.put handle' changed').put handle changed := by
  obtain ⟨hposition, hhandle⟩ := scope?_eq_some_iff.mp found
  obtain ⟨hposition', hhandle'⟩ := scope?_eq_some_iff.mp found'
  have hdepth : handle.depth ≠ handle'.depth := by
    intro hsame
    rw [hsame, hposition', Option.some.injEq] at hposition
    rw [← hhandle, ← hhandle', hposition] at apart
    exact apart rfl
  simp only [put, List.set_comm _ _ hdepth]

theorem declare_of_same_scope (limits : stack.limits = other.limits)
    (same : stack.scope? handle = other.scope? handle) (declaration : Declaration) :
    (∃ fault, stack.declare handle declaration = .error fault ∧
      other.declare handle declaration = .error fault) ∨
    ∃ scope changed symbol, stack.scope? handle = some scope ∧ changed.handle = handle ∧
      stack.declare handle declaration = .ok (symbol, stack.put handle changed) ∧
      other.declare handle declaration = .ok (symbol, other.put handle changed) := by
  rw [declare_eq, declare_eq, ← same, ← limits]
  cases hscope : stack.scope? handle with
  | none => exact Or.inl ⟨_, rfl, rfl⟩
  | some scope =>
    cases stack.limits.declarationFault? declaration with
    | some fault => exact Or.inl ⟨fault, rfl, rfl⟩
    | none =>
      cases hdeclared : scope.declare declaration with
      | error fault => exact Or.inl ⟨fault, by simp only [hdeclared], by simp only [hdeclared]⟩
      | ok declared =>
        obtain ⟨symbol, changed⟩ := declared
        have hhandle := (Scope.handle_of_declare hdeclared).trans (handle_of_scope? hscope)
        exact Or.inr ⟨scope, changed, symbol, rfl, hhandle, by simp only [hdeclared],
          by simp only [hdeclared]⟩

theorem takeAddress_of_same_scope (same : stack.scope? handle = other.scope? handle) :
    (∃ fault, stack.takeAddress handle = .error fault ∧ other.takeAddress handle = .error fault) ∨
    ∃ scope changed address, stack.scope? handle = some scope ∧ changed.handle = handle ∧
      stack.takeAddress handle = .ok (address, stack.put handle changed) ∧
      other.takeAddress handle = .ok (address, other.put handle changed) := by
  rw [takeAddress_eq, takeAddress_eq, ← same]
  cases hscope : stack.scope? handle with
  | none => exact Or.inl ⟨_, rfl, rfl⟩
  | some scope =>
    cases htaken : scope.takeAddress with
    | error fault => exact Or.inl ⟨fault, by simp only [htaken], by simp only [htaken]⟩
    | ok taken =>
      obtain ⟨address, changed⟩ := taken
      have hhandle := (Scope.handle_of_takeAddress htaken).trans (handle_of_scope? hscope)
      exact Or.inr ⟨scope, changed, address, rfl, hhandle, by simp only [htaken],
        by simp only [htaken]⟩

end Stack

namespace Call

variable {stack other : Stack} {call first second : Call} {handle handle' : Handle}

/-- Two stacks answer a call alike, and either it changes nothing or it puts the same scope in place
of the one with the handle. -/
inductive ActsAlike (call : Call) (handle : Handle) (stack other : Stack) : Prop
  | idle (answer : Answer) (here : call.perform stack = (answer, stack))
      (there : call.perform other = (answer, other))
  | changes (answer : Answer) {scope changed : Scope} (found : stack.scope? handle = some scope)
      (same : changed.handle = handle)
      (here : call.perform stack = (answer, stack.put handle changed))
      (there : call.perform other = (answer, other.put handle changed))

theorem exists_answer_of_refused {declaration : Declaration}
    (asks : call.declaration? = some (handle, declaration)) (fault : Fault) :
    ∃ answer, ∀ stack, stack.declare handle declaration = .error fault →
      call.perform stack = (answer, stack) := by
  cases call with
  | declare =>
    obtain ⟨rfl, rfl⟩ := Prod.mk.inj (Option.some.inj asks)
    exact ⟨.refused fault, fun stack h => by simp only [perform_declare, h]⟩
  | declareReporting =>
    obtain ⟨rfl, rfl⟩ := Prod.mk.inj (Option.some.inj asks)
    exact ⟨_, fun stack h => by simp only [perform_declareReporting, h]; rfl⟩
  | enter | exit | takeAddress | resolve | resolveReporting => simp [declaration?] at asks

theorem actsAlike_of_declaration? {declaration : Declaration}
    (asks : call.declaration? = some (handle, declaration)) (limits : stack.limits = other.limits)
    (same : stack.scope? handle = other.scope? handle) : ActsAlike call handle stack other := by
  rcases Stack.declare_of_same_scope limits same declaration with
    ⟨fault, here, there⟩ | ⟨scope, changed, symbol, found, hhandle, here, there⟩
  · obtain ⟨answer, hanswer⟩ := exists_answer_of_refused asks fault
    exact .idle answer (hanswer stack here) (hanswer other there)
  · exact .changes (.declared symbol) found hhandle (perform_of_declared asks here)
      (perform_of_declared asks there)

/-- Stacks with the same limits and the same scope under a handle do the same when a call is made on
this scope. -/
theorem actsAlike (target : call.target? = some handle) (limits : stack.limits = other.limits)
    (same : stack.scope? handle = other.scope? handle) : ActsAlike call handle stack other := by
  cases call with
  | declare =>
    obtain rfl := Option.some.inj target
    exact actsAlike_of_declaration? rfl limits same
  | declareReporting =>
    obtain rfl := Option.some.inj target
    exact actsAlike_of_declaration? rfl limits same
  | takeAddress =>
    obtain rfl := Option.some.inj target
    rcases Stack.takeAddress_of_same_scope same with
      ⟨fault, here, there⟩ | ⟨scope, changed, address, found, hhandle, here, there⟩
    · exact .idle (.refused fault) (by simp only [perform_takeAddress, here])
        (by simp only [perform_takeAddress, there])
    · exact .changes (.address address) found hhandle (by simp only [perform_takeAddress, here])
        (by simp only [perform_takeAddress, there])
  | enter | exit | resolve | resolveReporting => simp [target?] at target

/-- A call leaves the limits and all other scopes as they are. -/
theorem perform_elsewhere (target : call.target? = some handle) (apart : handle ≠ handle') :
    (call.perform stack).2.limits = stack.limits ∧
      (call.perform stack).2.scope? handle' = stack.scope? handle' := by
  cases actsAlike target (rfl : stack.limits = stack.limits) rfl with
  | idle answer here =>
    rw [here]
    exact ⟨rfl, rfl⟩
  | changes answer found same here =>
    rw [here]
    exact ⟨rfl, Stack.scope?_put_of_ne found same apart.symm⟩

/-- A call is answered as if the call on another scope before it had not been made, and the two
orders come to the same stack. -/
theorem perform_comm (stack : Stack) (target : first.target? = some handle)
    (target' : second.target? = some handle') (apart : handle ≠ handle') :
    (second.perform (first.perform stack).2).1 = (second.perform stack).1 ∧
      (second.perform (first.perform stack).2).2 = (first.perform (second.perform stack).2).2 := by
  obtain ⟨hlimits, hscope⟩ : (first.perform stack).2.limits = stack.limits ∧
      (first.perform stack).2.scope? handle' = stack.scope? handle' :=
    perform_elsewhere target apart
  obtain ⟨hlimits', hscope'⟩ : (second.perform stack).2.limits = stack.limits ∧
      (second.perform stack).2.scope? handle = stack.scope? handle :=
    perform_elsewhere target' apart.symm
  cases actsAlike target' hlimits hscope with
  | idle answer' here' there' =>
    rw [here', there']
    exact ⟨rfl, rfl⟩
  | changes answer' found' same' here' there' =>
    rw [hscope] at found'
    cases actsAlike target hlimits'.symm hscope'.symm with
    | idle answer here there =>
      rw [here'.trans (by rw [here]), there, there']
      exact ⟨rfl, rfl⟩
    | changes answer found same here there =>
      rw [here', there, there', here]
      exact ⟨rfl, Stack.put_comm found found' apart⟩

@[simp] theorem target?_plain (call : Call) : call.plain.target? = call.target? := by
  cases call <;> rfl

/-- No call of the one list is made on the scope of a call of the other. -/
def Apart (calls others : List Call) : Prop :=
  ∀ call ∈ calls, ∀ other ∈ others, ∃ handle handle', call.target? = some handle ∧
    other.target? = some handle' ∧ handle ≠ handle'

theorem Apart.symm {calls others : List Call} (apart : Apart calls others) :
    Apart others calls := by
  intro other hother call hcall
  obtain ⟨handle, handle', target, target', hne⟩ := apart call hcall other hother
  exact ⟨handle', handle, target', target, hne.symm⟩

theorem history_perform_of_apart (stack : Stack) {others : List Call}
    (apart : ∀ other ∈ others, ∃ handle handle', call.target? = some handle ∧
      other.target? = some handle' ∧ handle ≠ handle') :
    history (call.perform stack).2 others = history stack others ∧
      performAll (call.perform stack).2 others = (call.perform (performAll stack others)).2 := by
  induction others generalizing stack with
  | nil => exact ⟨rfl, rfl⟩
  | cons other later ih =>
    rw [List.forall_mem_cons] at apart
    obtain ⟨⟨handle, handle', target, target', hne⟩, hlater⟩ := apart
    obtain ⟨hanswer, hstack⟩ := perform_comm stack target target' hne
    obtain ⟨hhistory, hfinal⟩ := ih (other.perform stack).2 hlater
    rw [history, history, hanswer, hstack, hhistory, performAll_cons, performAll_cons, hstack,
      hfinal]
    exact ⟨rfl, rfl⟩

theorem history_performAll_of_apart (stack : Stack) {calls others : List Call}
    (apart : Apart calls others) :
    history (performAll stack calls) others = history stack others ∧
      performAll (performAll stack calls) others = performAll (performAll stack others) calls := by
  induction calls generalizing stack with
  | nil => exact ⟨rfl, rfl⟩
  | cons call later ih =>
    obtain ⟨hfirst, hlater⟩ := List.forall_mem_cons.mp apart
    obtain ⟨hhistory, hfinal⟩ := history_perform_of_apart stack hfirst
    obtain ⟨hhistory', hfinal'⟩ := ih (call.perform stack).2 hlater
    rw [performAll_cons, hhistory', hhistory, hfinal', hfinal, performAll_cons]
    exact ⟨rfl, rfl⟩

/-- Two runs on different scopes can be made in any order. What happens in each of them does not
depend on the other, and they come to the same stack. -/
theorem runs_apart_comm (stack : Stack) {calls others : List Call} (apart : Apart calls others) :
    history stack (calls ++ others) = history stack calls ++ history stack others ∧
      history stack (others ++ calls) = history stack others ++ history stack calls ∧
      performAll stack (calls ++ others) = performAll stack (others ++ calls) := by
  obtain ⟨hothers, hstack⟩ := history_performAll_of_apart stack apart
  obtain ⟨hcalls, _⟩ := history_performAll_of_apart stack apart.symm
  rw [history_append, history_append, performAll_append, performAll_append, hothers, hcalls,
    hstack]
  exact ⟨rfl, rfl, rfl⟩

/-- What two reporting calls on different scopes tell their caller and leave to their handler. -/
theorem handleAll_pair_of_apart {η : Type} [Handler η Fault] (handler : η)
    (target : first.target? = some handle) (target' : second.target? = some handle')
    (apart : handle ≠ handle') :
    let answer := (first.plain.perform stack).1
    let answer' := (second.plain.perform stack).1
    handleAll handler stack [first, second] =
      (deliver handler ((first.finding? answer).toList ++ (second.finding? answer').toList)).map
        fun handler => ([first.reply answer, second.reply answer'],
          performAll stack [first.plain, second.plain], handler) := by
  intro answer answer'
  rw [← target?_plain] at target target'
  have hanswer : (second.plain.perform (first.plain.perform stack).2).1 = answer' :=
    (perform_comm stack target target' apart).1
  rw [handleAll_eq]
  simp only [findings, replies, hanswer, List.append_nil]
  rfl

end Call

/-- Two declarations or requests for an address on different scopes of any stack. The handles can be
those of open scopes, or stale, or foreign. In both orders each of the calls is answered as if the
other had not been made, and the stack in the end is the same. If the findings are left to a
handler, both orders tell the caller the same of each call, and the handler receives the same
findings, each when its call is made. -/
theorem scopes_act_apart (stack : Stack) {first second : Call} {handle handle' : Handle}
    (target : first.target? = some handle) (target' : second.target? = some handle')
    (apart : handle ≠ handle') :
    (first.perform (second.perform stack).2).1 = (first.perform stack).1 ∧
    (second.perform (first.perform stack).2).1 = (second.perform stack).1 ∧
    (second.perform (first.perform stack).2).2 = (first.perform (second.perform stack).2).2 ∧
    ∃ (reply reply' : Reply) (found found' : Option Fault) (after : Stack),
      ∀ (η : Type) [Handler η Fault] (handler : η),
        Call.handleAll handler stack [first, second] =
          (deliver handler (found.toList ++ found'.toList)).map
            (fun handler => ([reply, reply'], after, handler)) ∧
        Call.handleAll handler stack [second, first] =
          (deliver handler (found'.toList ++ found.toList)).map
            (fun handler => ([reply', reply], after, handler)) := by
  obtain ⟨hsecond, hstack⟩ := Call.perform_comm stack target target' apart
  obtain ⟨hfirst, _⟩ := Call.perform_comm stack target' target apart.symm
  refine ⟨hfirst, hsecond, hstack, _, _, _, _, _, fun η _ handler =>
    ⟨Call.handleAll_pair_of_apart handler target target' apart, ?_⟩⟩
  have hplain : Call.performAll stack [second.plain, first.plain] =
      Call.performAll stack [first.plain, second.plain] := by
    rw [← Call.target?_plain] at target target'
    exact (Call.perform_comm stack target' target apart.symm).2
  rw [← hplain]
  exact Call.handleAll_pair_of_apart handler target' target apart.symm

/-- A duplicate in an inner scope, and a declaration in a scope that was open at the same depth
before. -/
theorem scopes_act_apart_at_one_depth :
    let stack := Call.performAll {} [.enter, .enter, .exit ⟨1, 1⟩, .enter,
      .declare ⟨2, 1⟩ ⟨"x", .int, .var, 1⟩]
    let first := Call.declareReporting ⟨2, 1⟩ ⟨"x", .char, .var, 2⟩
    let second := Call.declare ⟨1, 1⟩ ⟨"x", .int, .var, 3⟩
    first.target? = some ⟨2, 1⟩ ∧ second.target? = some ⟨1, 1⟩ ∧
      (first.perform (second.perform stack).2).1 =
        .reported (.duplicate "x" ⟨2, 1⟩ 1 2 ⟨⟨2, 1⟩, ⟨0⟩⟩) ∧
      (second.perform (first.perform stack).2).1 = .refused (.closedScope ⟨1, 1⟩) := by
  intro stack first second
  have target : first.target? = some ⟨2, 1⟩ := rfl
  have target' : second.target? = some ⟨1, 1⟩ := rfl
  obtain ⟨hfirst, hsecond, _⟩ := scopes_act_apart stack target target' (by decide)
  refine ⟨target, target', ?_, ?_⟩
  · rw [hfirst]
    decide
  · rw [hsecond]
    decide

end Scoping
