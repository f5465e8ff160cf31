import Mathlib.Algebra.Group.Nat.Defs
import Scoping.Proofs.Operations
import Scoping.Stack.Reporting

namespace Scoping

/-- What a caller that leaves its findings to a handler is told. -/
inductive Reply
  | opened (scope : Handle)
  | closed
  | symbol (found : Option SymbolRef)
  | address (address : Address)
  | refused (fault : Fault)
  deriving DecidableEq, Repr

def Reply.ofAnswer : Answer → Reply
  | .opened scope => .opened scope
  | .closed => .closed
  | .declared found => .symbol (some found)
  | .address taken => .address taken
  | .resolved found => .symbol found
  | .reported _ => .symbol none
  | .refused fault => .refused fault

namespace Call

/-- The call that declares or resolves in the same way and does not report. -/
def plain : Call → Call
  | declareReporting scope declaration => declare scope declaration
  | resolveReporting name _ => resolve name
  | call => call

/-- What a reporting call finds when the plain one is answered so: a semantic fault of a declaration
or a name that is not declared. -/
def finding? : Call → Answer → Option Fault
  | declareReporting _ _, .refused fault => if fault.isStructural then none else some fault
  | resolveReporting name line, .resolved none => some (.unresolved name line)
  | _, _ => none

/-- What the caller is told when the plain call is answered so. A finding is not told. -/
def reply (call : Call) (answer : Answer) : Reply :=
  match call.finding? answer with
  | some _ => .symbol none
  | none => .ofAnswer answer

def replies (stack : Stack) : List Call → List Reply
  | [] => []
  | call :: later =>
    call.reply (call.plain.perform stack).1 :: replies (call.plain.perform stack).2 later

def findings (stack : Stack) : List Call → List Fault
  | [] => []
  | call :: later =>
    (call.finding? (call.plain.perform stack).1).toList
      ++ findings (call.plain.perform stack).2 later

section Handling

variable {η : Type} [Handler η Fault]

def handle (handler : η) (stack : Stack) : Call → Except Halt (Reply × Stack × η)
  | declareReporting scope declaration => do
    let (answer, stack, handler) ← stack.declareReporting scope declaration handler
    match answer with
    | .ok symbol => return (.symbol symbol, stack, handler)
    | .error fault => return (.refused fault, stack, handler)
  | resolveReporting name line => do
    let (found, handler) ← stack.resolveReporting name line handler
    return (.symbol found, stack, handler)
  | call => return (.ofAnswer (call.perform stack).1, (call.perform stack).2, handler)

def handleAll (handler : η) (stack : Stack) : List Call → Except Halt (List Reply × Stack × η)
  | [] => return ([], stack, handler)
  | call :: later => do
    let (reply, stack, handler) ← call.handle handler stack
    let (replies, stack, handler) ← handleAll handler stack later
    return (reply :: replies, stack, handler)

end Handling

end Call

section Delivery

variable {η : Type} [Handler η Fault] (handler : η) (stack : Stack)

def deliver (handler : η) (found : List Fault) : Except Halt η :=
  found.foldlM Handler.receive handler

theorem deliver_append (found more : List Fault) :
    deliver handler (found ++ more) = (deliver handler found).bind fun handler =>
      deliver handler more :=
  List.foldlM_append

namespace Stack

variable {stack} {scope : Handle} {declaration : Declaration} {fault : Fault}

theorem declareReporting_of_ok {symbol : SymbolRef} {after : Stack}
    (declared : stack.declare scope declaration = .ok (symbol, after)) :
    stack.declareReporting scope declaration handler = .ok (.ok (some symbol), after, handler) := by
  rw [declareReporting, declareOrReport, tryDeclare_eq_keeping, declared]
  rfl

/-- A structural fault goes to the caller and not to the handler. -/
theorem declareReporting_of_structural
    (refused : stack.declare scope declaration = .error fault)
    (structural : fault.isStructural = true) :
    stack.declareReporting scope declaration handler = .ok (.error fault, stack, handler) := by
  rw [declareReporting, declareOrReport, tryDeclare_eq_keeping, refused]
  exact if_pos structural

/-- A semantic fault goes to the handler and not to the caller. -/
theorem declareReporting_of_semantic (refused : stack.declare scope declaration = .error fault)
    (semantic : fault.isStructural = false) :
    stack.declareReporting scope declaration handler =
      (deliver handler [fault]).map fun handler => (.ok none, stack, handler) := by
  have hreceived : stack.declareReporting scope declaration handler =
      Handler.receive handler fault >>= fun handler => .ok (.ok none, stack, handler) := by
    rw [declareReporting, declareOrReport, tryDeclare_eq_keeping, refused]
    exact if_neg (Bool.eq_false_iff.mp semantic)
  rw [hreceived, deliver, List.foldlM_cons]
  cases Handler.receive handler fault <;> rfl

theorem resolveReporting_of_some {name : String} {found : SymbolRef}
    (resolved : stack.resolve name = some found) (line : Nat) :
    stack.resolveReporting name line handler = .ok (some found, handler) := by
  rw [resolveReporting, resolveOrReport, resolved]
  rfl

theorem resolveReporting_of_none {name : String} (resolved : stack.resolve name = none)
    (line : Nat) :
    stack.resolveReporting name line handler =
      (deliver handler [.unresolved name line]).map fun handler => (none, handler) := by
  rw [resolveReporting, resolveOrReport, resolved, deliver, List.foldlM_cons]
  cases Handler.receive handler (Fault.unresolved name line) <;> rfl

end Stack

namespace Call

/-- A call tells its caller and its handler what the plain call is answered. -/
theorem handle_eq (call : Call) :
    call.handle handler stack =
      (deliver handler (call.finding? (call.plain.perform stack).1).toList).map fun handler =>
        (call.reply (call.plain.perform stack).1, (call.plain.perform stack).2, handler) := by
  cases call with
  | declareReporting scope declaration =>
    cases hdeclare : stack.declare scope declaration with
    | ok declared =>
      simp only [handle, plain, perform_declare, hdeclare,
        Stack.declareReporting_of_ok handler hdeclare]
      rfl
    | error fault =>
      cases hstructural : fault.isStructural with
      | true =>
        simp only [handle, plain, perform_declare, hdeclare, finding?, reply, hstructural, if_true,
          Stack.declareReporting_of_structural handler hdeclare hstructural]
        rfl
      | false =>
        simp only [handle, plain, perform_declare, hdeclare, finding?, reply, hstructural,
          Bool.false_eq_true, if_false,
          Stack.declareReporting_of_semantic handler hdeclare hstructural]
        rw [Option.toList_some]
        cases deliver handler [fault] <;> rfl
  | resolveReporting name line =>
    cases hresolve : stack.resolve name with
    | some found =>
      simp only [handle, plain, perform, hresolve,
        Stack.resolveReporting_of_some handler hresolve line]
      rfl
    | none =>
      simp only [handle, plain, perform, hresolve, finding?, reply,
        Stack.resolveReporting_of_none handler hresolve line]
      rw [Option.toList_some]
      cases deliver handler [Fault.unresolved name line] <;> rfl
  | enter | exit | declare | takeAddress | resolve => rfl

theorem handleAll_eq (calls : List Call) :
    handleAll handler stack calls =
      (deliver handler (findings stack calls)).map fun handler =>
        (replies stack calls, performAll stack (calls.map plain), handler) := by
  induction calls generalizing handler stack with
  | nil => rfl
  | cons call later ih =>
    rw [handleAll, handle_eq, findings, deliver_append]
    cases deliver handler (call.finding? (call.plain.perform stack).1).toList with
    -- A handler that gives up ends both sides at the same call.
    | error halt => rfl
    | ok next =>
      show (handleAll next (call.plain.perform stack).2 later).bind _ = _
      rw [ih]
      cases hlater : deliver next (findings (call.plain.perform stack).2 later) with
      | error halt => simp only [Except.map, Except.bind, hlater]
      | ok last =>
        simp only [Except.map, Except.bind, hlater]
        rfl

theorem handleAll_of_deliver {calls : List Call} {after : η}
    (taken : deliver handler (findings stack calls) = .ok after) :
    handleAll handler stack calls =
      .ok (replies stack calls, performAll stack (calls.map plain), after) := by
  rw [handleAll_eq, taken]
  rfl

end Call

end Delivery

section Handlers

variable (found : List Fault)

theorem deliver_faults (collector : Collector Fault) :
    deliver collector found = .ok ⟨collector.items ++ found⟩ := by
  induction found generalizing collector with
  | nil =>
    rw [List.append_nil]
    rfl
  | cons fault later ih =>
    show deliver (collector.push fault) later = _
    rw [ih, Collector.push, List.append_assoc, List.singleton_append]

theorem deliver_diagnostics (collector : Collector Diagnostic) :
    deliver collector found = .ok ⟨collector.items ++ found.map Fault.report⟩ := by
  induction found generalizing collector with
  | nil =>
    rw [List.map_nil, List.append_nil]
    rfl
  | cons fault later ih =>
    show deliver (collector.push fault.report) later = _
    rw [ih, Collector.push, List.append_assoc, List.singleton_append, List.map_cons]

theorem deliver_tally (tally : Tally) :
    ∃ after : Tally, deliver tally found = .ok after ∧
      after.count.toNat = (tally.count.toNat + found.length) % 2 ^ 64 := by
  induction found generalizing tally with
  | nil => exact ⟨tally, rfl, (Nat.mod_eq_of_lt tally.count.toNat_lt).symm⟩
  | cons fault later ih =>
    obtain ⟨after, htaken, hcount⟩ := ih ⟨tally.count + 1⟩
    refine ⟨after, htaken, ?_⟩
    rw [hcount, UInt64.toNat_add, UInt64.toNat_one, List.length_cons]
    omega

theorem deliver_discarder (discarder : Discarder) : deliver discarder found = .ok discarder := by
  induction found with
  | nil => rfl
  | cons fault later ih => exact ih

end Handlers

/-- Whoever receives the findings of reporting calls, the calls tell the same and come to the same
stack, which is that of the plain calls. A finding is received once or told, never both: collectors
gain the findings in order, a tally grows by their number, and what was collected first and
forwarded then is what the handler would have received at once. -/
theorem handlers_only_observe (limits : Limits) (past calls : List Call) :
    let stack := Call.performAll { limits } past
    let final := Call.performAll stack (calls.map Call.plain)
    let replies := Call.replies stack calls
    let found := Call.findings stack calls
    (∀ collector : Collector Fault,
      Call.handleAll collector stack calls = .ok (replies, final, ⟨collector.items ++ found⟩)) ∧
    (∀ collector : Collector Diagnostic,
      Call.handleAll collector stack calls =
        .ok (replies, final, ⟨collector.items ++ found.map Fault.report⟩)) ∧
    (∀ tally : Tally, ∃ after : Tally,
      Call.handleAll tally stack calls = .ok (replies, final, after) ∧
        after.count.toNat = (tally.count.toNat + found.length) % 2 ^ 64) ∧
    (∀ discarder : Discarder,
      Call.handleAll discarder stack calls = .ok (replies, final, discarder)) ∧
    (∀ (η : Type) [Handler η Fault] (handler : η), ∃ collected : Collector Fault,
      Call.handleAll ({} : Collector Fault) stack calls = .ok (replies, final, collected) ∧
        (collected.forward handler).1 = {} ∧
        Call.handleAll handler stack calls =
          (collected.forward handler).2.map fun handler => (replies, final, handler)) ∧
    (∀ (η : Type) [Handler η Fault] (handler : η) (reached : Stack) (scope : Handle)
        (declaration : Declaration),
      (∀ symbol after, reached.declare scope declaration = .ok (symbol, after) →
        reached.declareReporting scope declaration handler =
          .ok (.ok (some symbol), after, handler)) ∧
      (∀ fault, reached.declare scope declaration = .error fault → fault.isStructural = true →
        reached.declareReporting scope declaration handler =
          .ok (.error fault, reached, handler)) ∧
      (∀ fault, reached.declare scope declaration = .error fault → fault.isStructural = false →
        reached.declareReporting scope declaration handler =
          (deliver handler [fault]).map fun handler => (.ok none, reached, handler))) ∧
    (∀ (η : Type) [Handler η Fault] (handler : η) (reached : Stack) (name : String) (line : Nat),
      (∀ symbol, reached.resolve name = some symbol →
        reached.resolveReporting name line handler = .ok (some symbol, handler)) ∧
      (reached.resolve name = none →
        reached.resolveReporting name line handler =
          (deliver handler [.unresolved name line]).map fun handler => (none, handler))) := by
  intro stack final replies found
  refine ⟨?_, ?_, ?_, ?_, ?_, ?_, ?_⟩
  · intro collector
    exact Call.handleAll_of_deliver _ _ (deliver_faults found collector)
  · intro collector
    exact Call.handleAll_of_deliver _ _ (deliver_diagnostics found collector)
  · intro tally
    obtain ⟨after, htaken, hcount⟩ := deliver_tally found tally
    exact ⟨after, Call.handleAll_of_deliver _ _ htaken, hcount⟩
  · intro discarder
    exact Call.handleAll_of_deliver _ _ (deliver_discarder found discarder)
  · intro η _ handler
    have hcollected := Call.handleAll_of_deliver _ stack (deliver_faults found {})
    exact ⟨_, hcollected, rfl, Call.handleAll_eq handler stack calls⟩
  · intro η _ handler reached scope declaration
    exact ⟨fun _ _ => Stack.declareReporting_of_ok handler,
      fun _ => Stack.declareReporting_of_structural handler,
      fun _ => Stack.declareReporting_of_semantic handler⟩
  · intro η _ handler reached name line
    exact ⟨fun _ resolved => Stack.resolveReporting_of_some handler resolved line,
      fun resolved => Stack.resolveReporting_of_none handler resolved line⟩

/-- A duplicate and a missing name are received, a closed scope is told, and a tally that was full
starts again. -/
theorem handlers_only_observe_around_closed_scope :
    let calls : List Call :=
      [.enter, .declareReporting ⟨0, 0⟩ ⟨"x", .int, .var, 1⟩,
        .declareReporting ⟨0, 0⟩ ⟨"x", .int, .var, 2⟩,
        .declareReporting ⟨7, 0⟩ ⟨"x", .int, .var, 3⟩, .resolveReporting "y" 4]
    let replies : List Reply :=
      [.opened ⟨0, 0⟩, .symbol (some ⟨⟨0, 0⟩, ⟨0⟩⟩), .symbol none,
        .refused (.closedScope ⟨7, 0⟩), .symbol none]
    let found : List Fault :=
      [.duplicate "x" ⟨0, 0⟩ 1 2 ⟨⟨0, 0⟩, ⟨0⟩⟩, .unresolved "y" 4]
    ∃ final, Call.handleAll ({} : Collector Fault) {} calls = .ok (replies, final, ⟨found⟩) ∧
      Call.handleAll (⟨0xFFFFFFFFFFFFFFFF⟩ : Tally) {} calls = .ok (replies, final, ⟨1⟩) := by
  intro calls replies found
  obtain ⟨hfaults, -, htally, -⟩ := handlers_only_observe {} [] calls
  have hreplies : Call.replies {} calls = replies := by decide
  have hfound : Call.findings {} calls = found := by decide
  obtain ⟨⟨count⟩, hcounted, hcount⟩ := htally ⟨0xFFFFFFFFFFFFFFFF⟩
  have hfaults := hfaults {}
  rw [Call.performAll_nil, hreplies, hfound] at hfaults
  rw [Call.performAll_nil, hreplies] at hcounted
  rw [Call.performAll_nil, hfound] at hcount
  have hlength : found.length = 2 := rfl
  rw [hlength] at hcount
  have hone : count = 1 := UInt64.toNat_inj.mp (hcount.trans (by decide))
  rw [hone] at hcounted
  exact ⟨_, hfaults, hcounted⟩

end Scoping
