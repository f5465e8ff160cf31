import Scoping.Proofs.Acceptance
import Scoping.Proofs.Evolution

namespace Scoping

namespace Scope

variable {scope next : Scope} {declaration : Declaration} {symbol : SymbolRef}
  {id : Store.Id Symbol} {held : Symbol}

theorem get?_of_declare (h : scope.declare declaration = .ok (symbol, next))
    (found : scope.get? id = some held) : next.get? id = some held := by
  obtain ⟨_, _, _, rfl⟩ := declare_eq_ok_iff.mp h
  -- The new symbol stands behind all those that the scope had.
  have hne : id ≠ ⟨scope.size⟩ := by
    rintro rfl
    exact absurd (lt_size_of_get? found) (Nat.lt_irrefl _)
  rw [get?_add, size_afterAddress, if_neg hne, get?_afterAddress]
  exact found

/-- A symbol that a scope has stays under its identifier, whatever happens to the scope. -/
theorem Evolves.get? {event : Event} (evolves : scope.Evolves event next)
    (found : scope.get? id = some held) : next.get? id = some held := by
  cases evolves with
  | declare _ declared => exact get?_of_declare declared found
  | takeAddress taken =>
    obtain ⟨_, _, rfl⟩ := takeAddress_eq_ok_iff.mp taken
    exact found
  | same _ => exact found

theorem length_acceptances (scope : Scope) : scope.acceptances.length = scope.size := by
  rw [acceptances, List.length_mapIdx]
  rfl

/-- The symbols of a scope are those that its declarations were answered with. -/
theorem map_symbol_acceptances (scope : Scope) :
    scope.acceptances.map Acceptance.symbol = scope.refs := by
  apply List.ext_getElem
  · simp [length_acceptances, refs, Store.ids, size]
  · intro position _ _
    simp [acceptances, refs, Store.ids]

end Scope

namespace Call

variable {start stack : Stack} {call : Call} {handle : Handle} {declaration : Declaration}
  {symbol : SymbolRef} {held : Symbol}

theorem declared_of_perform (asks : call.declaration? = some (handle, declaration))
    (accepted : (call.perform stack).1 = .declared symbol) :
    ∃ scope next, stack.scope? handle = some scope ∧
      scope.declare declaration = .ok (symbol, next) ∧
      (call.perform stack).2 = stack.put handle next := by
  have step := step_perform stack call
  generalize (call.perform stack).2 = after at step
  rw [accepted] at step
  cases step with
  | @declare _ _ _ scope next _ asked found _ declared =>
    rw [asks, Option.some.injEq, Prod.mk.injEq] at asked
    obtain ⟨rfl, rfl⟩ := asked
    exact ⟨scope, next, found, declared, rfl⟩
  | idle idle => simp [Answer.isIdle] at idle

theorem get?_performAll (found : start.get? symbol = some held) (calls : List Call)
    (stays : symbol.scope ∉ (history start calls).closed) :
    (performAll start calls).get? symbol = some held := by
  obtain ⟨scope, hscope, hheld⟩ := Option.bind_eq_some_iff.mp found
  obtain ⟨next, hnext, hkept⟩ :=
    scope_induction (P := fun _ current => current.get? symbol.symbol = some held) hscope hheld
      (fun _ _ _ _ kept _ _ evolves => evolves.get? kept) calls stays
  rw [Stack.get?, hnext]
  exact hkept

theorem get?_of_accepted (asks : call.declaration? = some (handle, declaration))
    (accepted : (call.perform stack).1 = .declared symbol) :
    ∃ scope, stack.scope? handle = some scope ∧ symbol.scope = handle ∧
      (call.perform stack).2.get? symbol = some (scope.entry declaration) := by
  obtain ⟨scope, next, hfound, hdeclared, hafter⟩ := declared_of_perform asks accepted
  have hhandle := Stack.handle_of_scope? hfound
  have hsymbol := (Scope.scope_of_declare hdeclared).trans hhandle
  refine ⟨scope, hfound, hsymbol, ?_⟩
  have hnext : (stack.put handle next).scope? handle = some next :=
    Stack.scope?_put_self hfound ((Scope.handle_of_declare hdeclared).trans hhandle)
  rw [hafter, Stack.get?, hsymbol, hnext]
  exact Scope.get?_declared hdeclared

end Call

namespace Recorded

variable {history : History} {stack : Stack} {scope : Scope}

theorem length_acceptedIn (recorded : Recorded history stack) (h : scope ∈ stack.scopes) :
    (history.acceptedIn scope.handle).length = scope.size := by
  rw [recorded.acceptedIn_eq scope h, Scope.length_acceptances]

theorem refsIn (recorded : Recorded history stack) (aligned : stack.Aligned)
    (h : scope ∈ stack.scopes) :
    stack.refsIn scope.handle =
      .ok ((history.acceptedIn scope.handle).map Acceptance.symbol) := by
  have hfound := aligned.scope?_eq_some_iff_mem.mpr ⟨h, rfl⟩
  rw [Stack.refsIn, Stack.scope, hfound, recorded.acceptedIn_eq scope h,
    Scope.map_symbol_acceptances]
  rfl

end Recorded

/-- Accepted declarations are answered with symbols of their own scope, and no two with the same
one. -/
structure History.Distinct (history : History) : Prop where
  scope_eq : ∀ acceptance ∈ history.acceptances, acceptance.symbol.scope = acceptance.scope
  nodup : (history.acceptances.map Acceptance.symbol).Nodup

namespace History.Distinct

variable {history : History} {stack after : Stack} {event : Event}

theorem start : Distinct [] where
  scope_eq acceptance h := by simp [acceptances] at h
  nodup := List.nodup_nil

theorem same (distinct : Distinct history) (nothing : event.acceptance? = none) :
    Distinct (history ++ [event]) := by
  have hacceptances : acceptances (history ++ [event]) = acceptances history := by
    rw [acceptances_concat, nothing]
    exact List.append_nil _
  refine ⟨?_, ?_⟩
  · rw [hacceptances]
    exact distinct.scope_eq
  · rw [hacceptances]
    exact distinct.nodup

/-- The symbol that a scope is about to hand out was never handed out before: what the scope has
accepted so far has smaller identifiers, and other scopes have other handles. -/
theorem fresh (distinct : Distinct history) (recorded : Recorded history stack) {scope : Scope}
    (h : scope ∈ stack.scopes) :
    scope.ref ⟨scope.size⟩ ∉ (acceptances history).map Acceptance.symbol := by
  intro hmem
  obtain ⟨acceptance, hacceptance, hsymbol⟩ := List.mem_map.mp hmem
  have hscope : acceptance.scope = scope.handle := by
    rw [← distinct.scope_eq acceptance hacceptance, hsymbol]
    rfl
  have hin := mem_acceptedIn.mpr ⟨hacceptance, hscope⟩
  rw [recorded.acceptedIn_eq scope h, Scope.mem_acceptances] at hin
  obtain ⟨id, held, hheld, rfl⟩ := hin
  have hid : id = ⟨scope.size⟩ := congrArg SymbolRef.symbol hsymbol
  have hlt := Scope.lt_size_of_get? hheld
  rw [hid] at hlt
  exact Nat.lt_irrefl _ hlt

theorem step (distinct : Distinct history) (recorded : Recorded history stack)
    (step : Step stack event after) : Distinct (history ++ [event]) := by
  cases step with
  | enter => exact distinct.same rfl
  | exit _ => exact distinct.same rfl
  | @declare call handle declaration scope next symbol asks found _ declared =>
    have hevent := Event.acceptance?_declared asks symbol
    have hscope := Scope.scope_of_declare declared
    obtain ⟨_, _, hsymbol, _⟩ := Scope.declare_eq_ok_iff.mp declared
    refine ⟨?_, ?_⟩
    · intro acceptance hacceptance
      rw [acceptances_concat, hevent, List.mem_append] at hacceptance
      rcases hacceptance with hbefore | hnow
      · exact distinct.scope_eq acceptance hbefore
      · have hnow : acceptance = ⟨handle, declaration, symbol⟩ := by simpa using hnow
        rw [hnow]
        exact hscope.trans (Stack.handle_of_scope? found)
    · rw [acceptances_concat, hevent, Option.toList_some, List.map_append, List.map_singleton,
        ← List.concat_eq_append, List.nodup_concat]
      refine ⟨?_, distinct.nodup⟩
      rw [hsymbol]
      exact distinct.fresh recorded (Stack.mem_of_scope? found)
  | takeAddress _ _ => exact distinct.same rfl
  | idle idle => exact distinct.same (Event.acceptance?_of_isIdle idle)

end History.Distinct

theorem Call.distinct (limits : Limits) (calls : List Call) (few : calls.count .enter < 2 ^ 64) :
    (history { limits } calls).Distinct := by
  refine (bounded_run_induction (P := fun history stack => Recorded history stack ∧
    history.Distinct) ⟨.start limits, .start⟩ ?_ calls few).2.2
  rintro _ _ _ _ accounted aligned ⟨recorded, distinct⟩ step
  exact ⟨recorded.step accounted aligned step, distinct.step recorded step⟩

/-- Symbols in every run with fewer openings than there are serial numbers. A declaration that was
accepted can be had unchanged in every later state in which its scope is open, with the index and
the address that it was given then, and not at all once the scope was closed. No two accepted
declarations were answered with the same symbol, and an open scope lists the symbols of those that
it accepted, in their order. -/
theorem accepted_symbols_stay (limits : Limits) (calls : List Call)
    (few : calls.count .enter < 2 ^ 64) :
    let history := Call.history { limits } calls
    let stack := Call.performAll { limits } calls
    (∀ (before later : List Call) (call : Call) (handle : Handle) (declaration : Declaration)
        (symbol : SymbolRef),
      let earlier := Call.performAll { limits } before
      calls = before ++ call :: later → call.declaration? = some (handle, declaration) →
      (call.perform earlier).1 = .declared symbol →
      ∃ scope, earlier.scope handle = .ok scope ∧
        (stack.isOpen handle = true → stack.get? symbol = some { declaration with
          index := ((Call.history { limits } before).acceptedIn handle).length
          address := scope.nextAddress }) ∧
        (handle ∈ history.closed → stack.get? symbol = none)) ∧
    (history.acceptances.map Acceptance.symbol).Nodup ∧
    (∀ handle, stack.isOpen handle = true →
      stack.refsIn handle = .ok ((history.acceptedIn handle).map Acceptance.symbol)) := by
  intro history stack
  have accounted : Accounted history stack := Call.accounted limits calls few
  have recorded : Recorded history stack := Call.recorded limits calls few
  have aligned : stack.Aligned := Stack.aligned_performAll limits calls
  refine ⟨?_, (Call.distinct limits calls few).nodup, ?_⟩
  · intro before later call handle declaration symbol earlier hcalls hasks haccepted
    obtain ⟨scope, hscope, hsymbol, hentry⟩ := Call.get?_of_accepted hasks haccepted
    refine ⟨scope, by rw [Stack.scope, hscope], ?_, ?_⟩
    · intro hopen
      -- The scope is open at the end, so no event after the declaration has closed it.
      have hnot : handle ∉ (Call.history { limits } calls).closed :=
        (accounted.mem_handles_iff.mp (aligned.isOpen_iff.mp hopen)).2
      rw [hcalls, List.append_cons, Call.history_append, History.closed_append, List.mem_append,
        not_or, Call.performAll_concat, ← hsymbol] at hnot
      have hkept := Call.get?_performAll hentry later hnot.2
      have hfew : before.count .enter < 2 ^ 64 := by
        rw [hcalls, List.count_append] at few
        omega
      have hindex := (Call.recorded limits before hfew).length_acceptedIn
        (Stack.mem_of_scope? hscope)
      rw [Stack.handle_of_scope? hscope] at hindex
      rw [hindex]
      show (Call.performAll { limits } calls).get? symbol = _
      rw [hcalls, Call.performAll_append]
      exact hkept
    · intro hclosed
      have hrefuses := aligned.refuses fun hmem => (accounted.mem_handles_iff.mp hmem).2 hclosed
      rw [← hsymbol] at hrefuses
      exact hrefuses.get? symbol.symbol
  · intro handle hopen
    obtain ⟨scope, hmem, rfl⟩ := Stack.mem_handles.mp (aligned.isOpen_iff.mp hopen)
    exact recorded.refsIn aligned hmem

/-- A symbol of an outer scope stays while an inner scope comes and goes; what the inner scope held
is gone although another scope stands in its place. -/
theorem accepted_symbols_stay_around_block :
    let calls := [.enter, .declare ⟨0, 0⟩ ⟨"x", .int, .var, 1⟩, .enter, .takeAddress ⟨0, 0⟩,
      .declareReporting ⟨0, 0⟩ ⟨"y", .char, .var, 2⟩, .declare ⟨1, 1⟩ ⟨"z", .int, .var, 3⟩,
      .exit ⟨1, 1⟩, .enter]
    (Call.performAll {} calls).get? ⟨⟨0, 0⟩, ⟨1⟩⟩ = some ⟨⟨"y", .char, .var, 2⟩, 1, 2⟩ ∧
      (Call.performAll {} calls).get? ⟨⟨1, 1⟩, ⟨0⟩⟩ = none := by
  intro calls
  have stay := (accepted_symbols_stay {} calls (by decide)).1
  constructor
  · obtain ⟨scope, hscope, hopen, _⟩ := stay (calls.take 4) (calls.drop 5) (calls[4]) ⟨0, 0⟩
      ⟨"y", .char, .var, 2⟩ ⟨⟨0, 0⟩, ⟨1⟩⟩ (by decide) rfl (by decide)
    have hnext : scope.nextAddress = 2 := by
      obtain rfl := Except.ok.inj hscope
      decide
    rw [hopen (by decide), hnext]
    rfl
  · obtain ⟨_, _, _, hclosed⟩ := stay (calls.take 5) (calls.drop 6) (calls[5]) ⟨1, 1⟩
      ⟨"z", .int, .var, 3⟩ ⟨⟨1, 1⟩, ⟨0⟩⟩ (by decide) rfl (by decide)
    exact hclosed (by decide)

end Scoping
