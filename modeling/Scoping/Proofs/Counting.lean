import Mathlib.Algebra.Group.Nat.Defs
import Scoping.AddressCounter

namespace Scoping

namespace AddressCounter

/-- What a counter is asked for: to hand out its next address, or to show it. -/
inductive Request
  | take
  | peek
  deriving DecidableEq, Repr

def respond (counter : AddressCounter) : Request → Option Address × AddressCounter
  | .take => counter.take
  | .peek => (some counter.next, counter)

def respondAll (counter : AddressCounter) (requests : List Request) : AddressCounter :=
  requests.foldl (fun counter request => (counter.respond request).2) counter

def answers (counter : AddressCounter) : List Request → List (Option Address)
  | [] => []
  | request :: later => (counter.respond request).1 :: answers (counter.respond request).2 later

/-- The addresses that a series of requests is given to keep. What is only shown is not among
them. -/
def handedOut (counter : AddressCounter) (requests : List Request) : List Address :=
  (requests.zip (counter.answers requests)).filterMap fun (request, answer) =>
    if request = .take then answer else none

@[simp] theorem respondAll_cons (counter : AddressCounter) (request : Request)
    (later : List Request) :
    counter.respondAll (request :: later) = (counter.respond request).2.respondAll later := rfl

theorem respondAll_concat (counter : AddressCounter) (requests : List Request)
    (request : Request) :
    counter.respondAll (requests ++ [request]) =
      ((counter.respondAll requests).respond request).2 := by
  simp [respondAll]

@[simp] theorem length_answers (counter : AddressCounter) (requests : List Request) :
    (counter.answers requests).length = requests.length := by
  induction requests generalizing counter with
  | nil => rfl
  | cons request later ih => simp [answers, ih]

theorem getElem?_answers (counter : AddressCounter) (requests : List Request) (i : Nat) :
    (counter.answers requests)[i]? =
      requests[i]?.map fun request =>
        ((counter.respondAll (requests.take i)).respond request).1 := by
  induction requests generalizing counter i with
  | nil => rfl
  | cons request later ih =>
    cases i with
    | zero => rfl
    | succ i => simp [answers, ih]

theorem handedOut_take (counter : AddressCounter) (later : List Request) :
    counter.handedOut (.take :: later) =
      (counter.respond .take).1.toList ++ (counter.respond .take).2.handedOut later := by
  cases h : (counter.respond .take).1 <;> simp [handedOut, answers, h]

theorem handedOut_peek (counter : AddressCounter) (later : List Request) :
    counter.handedOut (.peek :: later) = counter.handedOut later := by
  simp [handedOut, answers, respond]

theorem toNat_le_limit (address : Address) : address.toNat ≤ limit.toNat :=
  Nat.le_of_lt_succ address.toNat_lt_size

/-- All that asking for an address can come to. -/
theorem respond_take (counter : AddressCounter) :
    (counter.next.toNat = limit.toNat ∧ counter.respond .take = (none, counter)) ∨
      (counter.next.toNat < limit.toNat ∧ ∃ later,
        counter.respond .take = (some counter.next, later) ∧
        later.next.toNat = counter.next.toNat + 1) := by
  by_cases h : counter.next = limit
  · exact Or.inl ⟨by rw [h], take_of_eq h⟩
  · have hnext := toNat_succ_of_ne h
    have := toNat_le_limit (counter.next + 1)
    exact Or.inr ⟨by omega, ⟨counter.next + 1⟩, take_of_ne h, hnext⟩

theorem toNat_next_respond (counter : AddressCounter) (request : Request) :
    (counter.respond request).2.next.toNat =
      min (counter.next.toNat + [request].count .take) limit.toNat := by
  have hle := toNat_le_limit counter.next
  cases request with
  | peek =>
    show counter.next.toNat = min counter.next.toNat limit.toNat
    omega
  | take =>
    show _ = min (counter.next.toNat + 1) limit.toNat
    rcases counter.respond_take with ⟨hlimit, h⟩ | ⟨hlt, later, h, hnext⟩
    · rw [h, Nat.min_eq_right (by omega)]
      exact hlimit
    · rw [h, hnext]
      omega

/-- How far a counter has come tells how often it was asked for an address, up to the limit. -/
theorem toNat_next_respondAll (counter : AddressCounter) (requests : List Request) :
    (counter.respondAll requests).next.toNat =
      min (counter.next.toNat + requests.count .take) limit.toNat := by
  induction requests generalizing counter with
  | nil => exact (Nat.min_eq_left (toNat_le_limit _)).symm
  | cons request later ih =>
    have hcount : (request :: later).count .take = [request].count .take + later.count .take := by
      rw [← List.count_append, List.singleton_append]
    rw [respondAll_cons, ih, toNat_next_respond, hcount]
    omega

/-- A counter hands out consecutive addresses, one for each request as long as the limit is not
reached. -/
theorem toNat_handedOut (counter : AddressCounter) (requests : List Request) :
    (counter.handedOut requests).map UInt64.toNat =
      List.range' counter.next.toNat
        (min (requests.count .take) (limit.toNat - counter.next.toNat)) := by
  induction requests generalizing counter with
  | nil => simp [handedOut]
  | cons request later ih =>
    cases request with
    | peek => rw [handedOut_peek, ih, List.count_cons_of_ne (by decide)]
    | take =>
      rw [handedOut_take, List.count_cons_self, List.map_append]
      rcases counter.respond_take with ⟨hlimit, h⟩ | ⟨hlt, next, h, hnext⟩
      · simp [h, ih, hlimit]
      · have hcount : min (later.count .take + 1) (limit.toNat - counter.next.toNat) =
            min (later.count .take) (limit.toNat - (counter.next.toNat + 1)) + 1 := by omega
        rw [h, ih, hnext, hcount, List.range'_succ]
        rfl

theorem length_handedOut (counter : AddressCounter) (requests : List Request) :
    (counter.handedOut requests).length =
      min (requests.count .take) (limit.toNat - counter.next.toNat) := by
  rw [← List.length_map UInt64.toNat, toNat_handedOut, List.length_range']

theorem pairwise_lt_handedOut (counter : AddressCounter) (requests : List Request) :
    (counter.handedOut requests).Pairwise (· < ·) := by
  have hrange := List.pairwise_lt_range' (s := counter.next.toNat)
    (n := min (requests.count .take) (limit.toNat - counter.next.toNat))
  rw [← toNat_handedOut, List.pairwise_map] at hrange
  exact hrange.imp UInt64.lt_iff_toNat_lt.mpr

section Positions

variable {counter : AddressCounter} {requests : List Request} {i : Nat}

theorem toNat_answer_of_take (h : requests[i]? = some .take) :
    let reached := counter.next.toNat + (requests.take i).count .take
    (counter.answers requests)[i]?.map (Option.map UInt64.toNat) =
      some (if reached < limit.toNat then some reached else none) := by
  intro reached
  have hnext := counter.toNat_next_respondAll (requests.take i)
  rw [getElem?_answers, h]
  -- The counter that answers has stopped or stands at the number of requests so far.
  rcases (counter.respondAll (requests.take i)).respond_take with
    ⟨hlimit, stopped⟩ | ⟨hlt, later, taken, _⟩
  · have hfull : ¬ reached < limit.toNat := by omega
    rw [Option.map_some, stopped, if_neg hfull]
    rfl
  · have hroom : reached < limit.toNat := by omega
    rw [Nat.min_eq_left (Nat.le_of_lt hroom)] at hnext
    rw [Option.map_some, taken, if_pos hroom, Option.map_some, Option.map_some, hnext]

theorem toNat_answer_of_peek (h : requests[i]? = some .peek) :
    (counter.answers requests)[i]?.map (Option.map UInt64.toNat) =
      some (some (min (counter.next.toNat + (requests.take i).count .take) limit.toNat)) := by
  rw [getElem?_answers, h, ← toNat_next_respondAll]
  rfl

theorem respond_eq_of_none {request : Request} (h : (counter.respond request).1 = none) :
    (counter.respond request).2 = counter := by
  cases request with
  | peek => rfl
  | take =>
    rcases counter.respond_take with ⟨_, stopped⟩ | ⟨_, later, taken, _⟩
    · rw [stopped]
    · rw [taken] at h
      simp at h

theorem respondAll_take_succ_of_none (h : (counter.answers requests)[i]? = some none) :
    counter.respondAll (requests.take (i + 1)) = counter.respondAll (requests.take i) := by
  rw [getElem?_answers, Option.map_eq_some_iff] at h
  obtain ⟨request, hrequest, hnone⟩ := h
  rw [List.take_add_one, hrequest, Option.toList_some, respondAll_concat]
  exact respond_eq_of_none hnone

end Positions

end AddressCounter

/-- A counter that starts anywhere and is asked to hand out and to show addresses in any order.
After `k` requests for an address the next one is answered with the address `k` behind the first, as
long as that is below the largest address, and with none from then on. The counter shows the address
that it would hand out, or the largest one once it has stopped. A request that gets no address
leaves it as it is. So the addresses handed out are consecutive and none comes twice, and of those
from the first one to the last but the largest, none is left out if enough are asked for. -/
theorem counting_never_wraps (base : Address) (requests : List AddressCounter.Request) :
    let counter : AddressCounter := ⟨base⟩
    let answers := counter.answers requests
    let handedOut := counter.handedOut requests
    answers.length = requests.length ∧
      (∀ i, requests[i]? = some .take →
        let reached := base.toNat + (requests.take i).count .take
        answers[i]?.map (Option.map UInt64.toNat) =
          some (if reached < 2 ^ 64 - 1 then some reached else none)) ∧
      (∀ i, requests[i]? = some .peek →
        let reached := base.toNat + (requests.take i).count .take
        answers[i]?.map (Option.map UInt64.toNat) = some (some (min reached (2 ^ 64 - 1)))) ∧
      (∀ i, answers[i]? = some none →
        counter.respondAll (requests.take (i + 1)) = counter.respondAll (requests.take i)) ∧
      handedOut.length = min (requests.count .take) (2 ^ 64 - 1 - base.toNat) ∧
      handedOut.map UInt64.toNat = List.range' base.toNat handedOut.length ∧
      handedOut.Pairwise (· < ·) ∧ handedOut.Nodup := by
  intro counter answers handedOut
  have hlength := counter.length_handedOut requests
  have hincreasing := counter.pairwise_lt_handedOut requests
  refine ⟨counter.length_answers requests, fun i => AddressCounter.toNat_answer_of_take,
    fun i => AddressCounter.toNat_answer_of_peek,
    fun i => AddressCounter.respondAll_take_succ_of_none, hlength, ?_, hincreasing,
    hincreasing.imp UInt64.ne_of_lt⟩
  rw [hlength]
  exact counter.toNat_handedOut requests

/-- Four addresses are asked for where two are left. -/
theorem counting_never_wraps_near_limit :
    let counter : AddressCounter := ⟨0xFFFFFFFFFFFFFFFD⟩
    let requests := [.peek, .take, .peek, .take, .take, .peek, .take]
    let answers := counter.answers requests
    requests[3]? = some .take ∧
      answers[3]?.map (Option.map UInt64.toNat) = some (some (2 ^ 64 - 2)) ∧
      requests[5]? = some .peek ∧
      answers[5]?.map (Option.map UInt64.toNat) = some (some (2 ^ 64 - 1)) ∧
      answers[4]? = some none ∧
      counter.respondAll (requests.take 5) = counter.respondAll (requests.take 4) ∧
      (counter.handedOut requests).map UInt64.toNat = [2 ^ 64 - 3, 2 ^ 64 - 2] := by
  intro counter requests answers
  obtain ⟨_, takes, peeks, stays, hlength, hconsecutive, _⟩ :=
    counting_never_wraps 0xFFFFFFFFFFFFFFFD requests
  have refused : answers[4]? = some none := by decide
  refine ⟨rfl, takes 3 rfl, rfl, peeks 5 rfl, refused, stays 4 refused, ?_⟩
  rw [hconsecutive, hlength]
  decide

end Scoping
