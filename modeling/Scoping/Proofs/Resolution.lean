import Scoping.Proofs.Acceptance
import Scoping.Proofs.Session

namespace Scoping

namespace Stack

variable {stack after : Stack} {handle : Handle} {name : String} {symbol : SymbolRef}

/-- What the look-up of a name in one scope finds, as far as the scope is open. -/
def localMatch (stack : Stack) (name : String) (handle : Handle) : Option SymbolRef :=
  (stack.lookupIn handle name).toOption.join

theorem lookupIn_of_scope? {scope : Scope} (h : stack.scope? handle = some scope) :
    stack.lookupIn handle name = .ok (scope.lookupRef? name) := by
  rw [lookupIn, Stack.scope, h]
  rfl

theorem Aligned.localMatch_handle (aligned : stack.Aligned) {scope : Scope}
    (h : scope ∈ stack.scopes) : stack.localMatch name scope.handle = scope.lookupRef? name := by
  rw [localMatch, lookupIn_of_scope? (aligned.scope?_eq_some_iff_mem.mpr ⟨h, rfl⟩)]
  rfl

theorem Aligned.lookupIn_of_mem_handles (aligned : stack.Aligned) (name : String)
    (h : handle ∈ stack.handles) :
    stack.lookupIn handle name = .ok (stack.localMatch name handle) := by
  obtain ⟨scope, hmem, rfl⟩ := mem_handles.mp h
  have hscope := aligned.scope?_eq_some_iff_mem.mpr ⟨hmem, rfl⟩
  rw [aligned.localMatch_handle hmem, lookupIn_of_scope? hscope]

/-- From the innermost scope outwards the depths decrease. -/
theorem Aligned.depths_decrease (aligned : stack.Aligned) :
    stack.scopes.reverse.Pairwise fun inner outer => outer.handle.depth < inner.handle.depth := by
  have h : (stack.scopes.map fun scope => scope.handle.depth).Pairwise (· < ·) := by
    rw [aligned.depths]
    exact List.pairwise_lt_range
  rw [List.pairwise_reverse]
  exact List.pairwise_map.mp h

theorem Aligned.findSome?_localMatch (aligned : stack.Aligned) {scopes : List Scope}
    (h : ∀ scope ∈ scopes, scope ∈ stack.scopes) :
    (scopes.map Scope.handle).findSome? (stack.localMatch name) =
      scopes.findSome? fun scope => scope.lookupRef? name := by
  induction scopes with
  | nil => rfl
  | cons scope scopes ih =>
    have hhead : stack.localMatch name scope.handle = scope.lookupRef? name :=
      aligned.localMatch_handle (h scope List.mem_cons_self)
    have htail := ih fun other hother => h other (List.mem_cons_of_mem _ hother)
    rw [List.map_cons, List.findSome?_cons, List.findSome?_cons, hhead, htail]

/-- Resolution asks the open scopes one by one, from the innermost outwards. -/
theorem Aligned.resolve_eq_findSome? (aligned : stack.Aligned) :
    stack.resolve name = stack.handles.findSome? (stack.localMatch name) := by
  rw [handles, aligned.findSome?_localMatch fun scope h => List.mem_reverse.mp h]
  rfl

/-- What resolves after the innermost scope was closed is what the other scopes had before. -/
theorem Aligned.resolve_of_exit (aligned : stack.Aligned) (h : stack.exit handle = .ok after) :
    after.resolve name = stack.handles.tail.findSome? (stack.localMatch name) := by
  obtain ⟨_, rfl⟩ := exit_eq_ok_iff.mp h
  have htail : stack.handles.tail = stack.scopes.dropLast.reverse.map Scope.handle := by
    rw [handles, ← List.map_tail, List.tail_reverse]
  rw [htail, aligned.findSome?_localMatch]
  · rfl
  · intro scope hscope
    exact List.dropLast_subset _ (List.mem_reverse.mp hscope)

theorem resolve_eq_none_iff :
    stack.resolve name = none ↔ ∀ scope ∈ stack.scopes, scope.lookupRef? name = none := by
  simp [resolve, List.findSome?_eq_none_iff]

/-- The match is the one of greatest depth. -/
theorem Aligned.resolve_eq_some_iff (aligned : stack.Aligned) :
    stack.resolve name = some symbol ↔
      ∃ scope ∈ stack.scopes, scope.lookupRef? name = some symbol ∧
        ∀ inner ∈ stack.scopes, scope.handle.depth < inner.handle.depth →
          inner.lookupRef? name = none := by
  rw [resolve, List.findSome?_eq_some_iff]
  constructor
  · rintro ⟨inners, scope, outers, hsplit, hfound, hnone⟩
    -- The scopes in front of the match are the deeper ones.
    have hmem : scope ∈ stack.scopes := by
      rw [← List.mem_reverse, hsplit]
      simp
    refine ⟨scope, hmem, hfound, ?_⟩
    intro inner hinner hdepth
    rw [← List.mem_reverse, hsplit, List.mem_append, List.mem_cons] at hinner
    have hdecrease := aligned.depths_decrease
    rw [hsplit, List.pairwise_append, List.pairwise_cons] at hdecrease
    rcases hinner with hinner | rfl | hinner
    · exact hnone inner hinner
    · exact absurd hdepth (Nat.lt_irrefl _)
    · have := hdecrease.2.1.1 inner hinner
      omega
  · rintro ⟨scope, hmem, hfound, hnone⟩
    obtain ⟨inners, outers, hsplit⟩ := List.append_of_mem (List.mem_reverse.mpr hmem)
    refine ⟨inners, scope, outers, hsplit, hfound, ?_⟩
    intro inner hinner
    have hdecrease := aligned.depths_decrease
    rw [hsplit, List.pairwise_append] at hdecrease
    apply hnone inner
    · rw [← List.mem_reverse, hsplit]
      exact List.mem_append_left _ hinner
    · exact hdecrease.2.2 inner hinner scope List.mem_cons_self

theorem Sound.get?_of_lookupRef? (sound : stack.Sound) (aligned : stack.Aligned) {scope : Scope}
    (hmem : scope ∈ stack.scopes) (h : scope.lookupRef? name = some symbol) :
    ∃ found, stack.get? symbol = some found ∧ found.name = name := by
  obtain ⟨id, hid, rfl⟩ := Option.map_eq_some_iff.mp h
  obtain ⟨found, hfound, hname⟩ := (sound scope hmem).get?_of_lookup? hid
  have hscope : stack.scope? scope.handle = some scope :=
    aligned.scope?_eq_some_iff_mem.mpr ⟨hmem, rfl⟩
  refine ⟨found, ?_, hname⟩
  rw [Stack.get?, Scope.ref, hscope]
  exact hfound

theorem Sound.get?_of_lookupIn (sound : stack.Sound) (aligned : stack.Aligned)
    (h : stack.lookupIn handle name = .ok (some symbol)) :
    ∃ found, stack.get? symbol = some found ∧ found.name = name := by
  cases hscope : stack.scope? handle with
  | none =>
    rw [lookupIn, Stack.scope, hscope] at h
    simp [Except.map] at h
  | some scope =>
    rw [lookupIn_of_scope? hscope, Except.ok.injEq] at h
    exact sound.get?_of_lookupRef? aligned (mem_of_scope? hscope) h

theorem Sound.get?_of_resolve (sound : stack.Sound) (aligned : stack.Aligned)
    (h : stack.resolve name = some symbol) :
    ∃ found, stack.get? symbol = some found ∧ found.name = name := by
  obtain ⟨scope, hmem, hfound, _⟩ := aligned.resolve_eq_some_iff.mp h
  exact sound.get?_of_lookupRef? aligned hmem hfound

end Stack

section History

variable {history : History} {stack : Stack} {name : String} {symbol : SymbolRef}

/-- In an open scope a look-up finds what the history says the scope accepted. -/
theorem Recorded.lookupRef?_eq_some_iff (recorded : Recorded history stack) (sound : stack.Sound)
    {scope : Scope} (h : scope ∈ stack.scopes) :
    scope.lookupRef? name = some symbol ↔
      ∃ acceptance ∈ history.acceptances, acceptance.scope = scope.handle ∧
        acceptance.declaration.name = name ∧ acceptance.symbol = symbol := by
  rw [(sound scope h).lookupRef?_eq_some_iff, ← recorded.acceptedIn_eq scope h]
  simp only [History.mem_acceptedIn, and_assoc]

theorem Recorded.lookupRef?_eq_none_iff (recorded : Recorded history stack) (sound : stack.Sound)
    {scope : Scope} (h : scope ∈ stack.scopes) :
    scope.lookupRef? name = none ↔
      ∀ acceptance ∈ history.acceptances, acceptance.scope = scope.handle →
        acceptance.declaration.name ≠ name := by
  constructor
  · intro hnone acceptance hmem hscope hname
    have hfound := (recorded.lookupRef?_eq_some_iff sound h).mpr
      ⟨acceptance, hmem, hscope, hname, rfl⟩
    rw [hnone] at hfound
    simp at hfound
  · intro hnothing
    rw [Option.eq_none_iff_forall_not_mem]
    intro found hfound
    obtain ⟨acceptance, hmem, hscope, hname, _⟩ :=
      (recorded.lookupRef?_eq_some_iff sound h).mp hfound
    exact hnothing acceptance hmem hscope hname

theorem Accounted.mem_stillOpen_iff (accounted : Accounted history stack) {handle : Handle} :
    handle ∈ history.stillOpen ↔ ∃ scope ∈ stack.scopes, scope.handle = handle := by
  rw [← accounted.handles_eq, List.mem_map]

/-- A name resolves to what was accepted in the innermost of the open scopes that accepted it. -/
theorem Recorded.resolve_eq_some_iff (recorded : Recorded history stack)
    (accounted : Accounted history stack) (aligned : stack.Aligned) (sound : stack.Sound) :
    stack.resolve name = some symbol ↔
      ∃ acceptance ∈ history.acceptances, acceptance.declaration.name = name ∧
        acceptance.symbol = symbol ∧ acceptance.scope ∈ history.stillOpen ∧
        ∀ other ∈ history.acceptances, other.declaration.name = name →
          other.scope ∈ history.stillOpen → ¬ acceptance.scope.depth < other.scope.depth := by
  rw [aligned.resolve_eq_some_iff]
  constructor
  · rintro ⟨scope, hscope, hfound, hinner⟩
    obtain ⟨acceptance, hmem, hsame, hname, hsymbol⟩ :=
      (recorded.lookupRef?_eq_some_iff sound hscope).mp hfound
    refine ⟨acceptance, hmem, hname, hsymbol, ?_, ?_⟩
    · exact accounted.mem_stillOpen_iff.mpr ⟨scope, hscope, hsame.symm⟩
    · intro other hother hname' hopen hdepth
      obtain ⟨inner, hmem', hhandle⟩ := accounted.mem_stillOpen_iff.mp hopen
      have hnone := hinner inner hmem' (by rw [hhandle, ← hsame]; exact hdepth)
      exact (recorded.lookupRef?_eq_none_iff sound hmem').mp hnone other hother hhandle.symm hname'
  · rintro ⟨acceptance, hmem, hname, hsymbol, hopen, hinner⟩
    obtain ⟨scope, hscope, hhandle⟩ := accounted.mem_stillOpen_iff.mp hopen
    refine ⟨scope, hscope, ?_, ?_⟩
    · exact (recorded.lookupRef?_eq_some_iff sound hscope).mpr
        ⟨acceptance, hmem, hhandle.symm, hname, hsymbol⟩
    · intro inner hmem' hdepth
      rw [recorded.lookupRef?_eq_none_iff sound hmem']
      intro other hother hsame hname'
      apply hinner other hother hname'
      · exact accounted.mem_stillOpen_iff.mpr ⟨inner, hmem', hsame.symm⟩
      · rw [hsame, ← hhandle]
        exact hdepth

theorem Recorded.resolve_eq_none_iff (recorded : Recorded history stack)
    (accounted : Accounted history stack) (sound : stack.Sound) :
    stack.resolve name = none ↔
      ∀ acceptance ∈ history.acceptances, acceptance.declaration.name = name →
        acceptance.scope ∉ history.stillOpen := by
  rw [Stack.resolve_eq_none_iff]
  constructor
  · intro hnone acceptance hmem hname hopen
    obtain ⟨scope, hscope, hhandle⟩ := accounted.mem_stillOpen_iff.mp hopen
    exact (recorded.lookupRef?_eq_none_iff sound hscope).mp (hnone scope hscope) acceptance hmem
      hhandle.symm hname
  · intro hnothing scope hscope
    rw [recorded.lookupRef?_eq_none_iff sound hscope]
    intro acceptance hmem hsame hname
    apply hnothing acceptance hmem hname
    exact accounted.mem_stillOpen_iff.mpr ⟨scope, hscope, hsame.symm⟩

end History

namespace Script

/-- In a replay, a name that is found is that of a symbol that can be had. -/
theorem Session.get?_of_resolve_runLines (limits : Limits) (sink : Sink) (lines : List String)
    {name : String} {symbol : SymbolRef}
    (h : (runLines { stack := { limits }, sink } 1 lines).stack.resolve name = some symbol) :
    ∃ found, (runLines { stack := { limits }, sink } 1 lines).stack.get? symbol = some found := by
  obtain ⟨calls, _, hcalls⟩ := exists_calls_runLines { stack := { limits }, sink } 1 lines
  rw [hcalls] at h ⊢
  have sound : (Call.performAll { limits } calls).Sound := (Stack.sound_performAll limits calls).2
  obtain ⟨found, hfound, _⟩ := sound.get?_of_resolve (Stack.aligned_performAll limits calls) h
  exact ⟨found, hfound⟩

theorem Command.runResolve_of_get? {stack : Stack} {name : String} {symbol : SymbolRef}
    {found : Symbol} (resolved : stack.resolve name = some symbol)
    (held : stack.get? symbol = some found) (line : Nat) :
    runResolve stack line name = .ok (resolutionText name symbol found) := by
  simp only [runResolve, resolved, held]

theorem Session.runResolve_of_get? {session : Session} {name : String} {symbol : SymbolRef}
    {found : Symbol} (resolved : session.stack.resolve name = some symbol)
    (held : session.stack.get? symbol = some found) (line : Nat) :
    session.runResolve line name =
      session.send fun sink => sink.writeAll (resolutionPieces name symbol found) := by
  rw [session.runResolve_of_some line resolved, held, send_resolutionPieces]

end Script

/-- Resolution in every run with fewer openings than there are serial numbers, told by the history:
a name resolves to the symbol that was accepted for it in the innermost scope still open, and to
nothing if no scope still open has accepted it. Resolution asks the open scopes one after the other;
when the innermost is closed the others answer as they did before; and what a look-up answers can
be had, so that a replay always prints what a name resolves to. -/
theorem resolve_follows_history (limits : Limits) (calls : List Call)
    (few : calls.count .enter < 2 ^ 64) (name : String) :
    let history := Call.history { limits } calls
    let stack := Call.performAll { limits } calls
    (∀ symbol, stack.resolve name = some symbol ↔
      ∃ acceptance ∈ history.acceptances, acceptance.declaration.name = name ∧
        acceptance.symbol = symbol ∧ acceptance.scope ∈ history.stillOpen ∧
        ∀ other ∈ history.acceptances, other.declaration.name = name →
          other.scope ∈ history.stillOpen → ¬ acceptance.scope.depth < other.scope.depth) ∧
    (stack.resolve name = none ↔
      ∀ acceptance ∈ history.acceptances, acceptance.declaration.name = name →
        acceptance.scope ∉ history.stillOpen) ∧
    ((∀ handle ∈ stack.handles,
        stack.lookupIn handle name = .ok (stack.localMatch name handle)) ∧
      stack.resolve name = stack.handles.findSome? (stack.localMatch name)) ∧
    (∀ handle after, stack.exit handle = .ok after →
      after.resolve name = stack.handles.tail.findSome? (stack.localMatch name)) ∧
    (∀ symbol, (stack.resolve name = some symbol ∨
        ∃ handle, stack.lookupIn handle name = .ok (some symbol)) →
      ∃ found, stack.get? symbol = some found ∧ found.name = name) ∧
    (∀ (sink : Script.Sink) (lines : List String) (line : Nat) (symbol : SymbolRef),
      let reached := Script.Session.runLines { stack := { limits }, sink } 1 lines
      reached.stack.resolve name = some symbol → ∃ found,
        reached.stack.get? symbol = some found ∧
        Script.Command.runResolve reached.stack line name =
          .ok (Script.resolutionText name symbol found) ∧
        reached.runResolve line name =
          reached.send fun sink => sink.writeAll (Script.resolutionPieces name symbol found)) := by
  intro history stack
  have accounted : Accounted history stack := Call.accounted limits calls few
  have recorded : Recorded history stack := Call.recorded limits calls few
  have aligned : stack.Aligned := Stack.aligned_performAll limits calls
  have sound : stack.Sound := (Stack.sound_performAll limits calls).2
  refine ⟨?_, ?_, ⟨?_, aligned.resolve_eq_findSome?⟩, ?_, ?_, ?_⟩
  · intro symbol
    exact recorded.resolve_eq_some_iff accounted aligned sound
  · exact recorded.resolve_eq_none_iff accounted sound
  · intro handle hhandle
    exact aligned.lookupIn_of_mem_handles name hhandle
  · intro handle after hexit
    exact aligned.resolve_of_exit hexit
  · rintro symbol (hresolve | ⟨handle, hlookup⟩)
    · exact sound.get?_of_resolve aligned hresolve
    · exact sound.get?_of_lookupIn aligned hlookup
  · intro sink lines line symbol reached hresolve
    obtain ⟨found, held⟩ :=
      Script.Session.get?_of_resolve_runLines limits sink lines hresolve
    exact ⟨found, held, Script.Command.runResolve_of_get? hresolve held line,
      Script.Session.runResolve_of_get? hresolve held line⟩

/-- Closing the inner scope brings the outer declaration back. -/
theorem unshadowed_name_resolves_outside :
    (Call.performAll {} [.enter, .declare ⟨0, 0⟩ ⟨"x", .int, .var, 1⟩, .enter,
      .declare ⟨1, 1⟩ ⟨"x", .char, .var, 2⟩]).resolve "x" = some ⟨⟨1, 1⟩, ⟨0⟩⟩ ∧
    (Call.performAll {} [.enter, .declare ⟨0, 0⟩ ⟨"x", .int, .var, 1⟩, .enter,
      .declare ⟨1, 1⟩ ⟨"x", .char, .var, 2⟩, .exit ⟨1, 1⟩]).resolve "x" =
        some ⟨⟨0, 0⟩, ⟨0⟩⟩ := by
  have inside := resolve_follows_history {} [.enter, .declare ⟨0, 0⟩ ⟨"x", .int, .var, 1⟩, .enter,
    .declare ⟨1, 1⟩ ⟨"x", .char, .var, 2⟩] (by decide) "x"
  have outside := resolve_follows_history {} [.enter, .declare ⟨0, 0⟩ ⟨"x", .int, .var, 1⟩, .enter,
    .declare ⟨1, 1⟩ ⟨"x", .char, .var, 2⟩, .exit ⟨1, 1⟩] (by decide) "x"
  constructor
  · refine (inside.1 _).mpr ⟨⟨⟨1, 1⟩, ⟨"x", .char, .var, 2⟩, ⟨⟨1, 1⟩, ⟨0⟩⟩⟩, ?_⟩
    decide
  · refine (outside.1 _).mpr ⟨⟨⟨0, 0⟩, ⟨"x", .int, .var, 1⟩, ⟨⟨0, 0⟩, ⟨0⟩⟩⟩, ?_⟩
    decide

end Scoping
