import BytePattern.Proofs.Pattern.Searching
import Mathlib.Algebra.GroupWithZero.Nat

/-!
# Driving a search

A search may be asked for the next occurrence, for the one behind a number of others, for several
at once, or only for the bound on those still to come, in any order. Every request takes its share
off the front of the occurrences still to come, so what was asked for before determines all that is
left. The bound falls by one at least for every occurrence taken off, and a request that finds too
few occurrences leaves it at zero, where it stays.
-/

namespace BytePattern

namespace Pattern

variable {pattern : Pattern} {data : Bytes}

/-- Seeking goes beyond the occurrence that it finds, and up to the end if it finds none. -/
theorem seek_progress (anchor : Anchor) (anchored : pattern.anchor = some anchor) (stop : Nat)
    (bound : stop = pattern.searchEnd data) (position : Nat) :
    match pattern.seek data anchor anchored stop bound position with
    | (some _, reached) => stop - reached < stop - position
    | (none, reached) => stop - reached = 0 := by
  fun_induction seek pattern data anchor anchored stop bound position with
  | case1 position fits inside byte following matched =>
      have := pattern.shifts.get_pos byte
      show stop - (position + pattern.shifts.get byte) < stop - position
      omega
  | case2 position fits inside byte following unmatched ih =>
      have forwards : stop - following ≤ stop - position :=
        Nat.sub_le_sub_left (Nat.le_add_right _ _) stop
      generalize pattern.seek data anchor anchored stop bound following = outcome at ih ⊢
      split at ih
      · exact Nat.lt_of_lt_of_le ih forwards
      · exact ih
  | case3 position beyond =>
      exact Nat.sub_eq_zero_of_le (Nat.le_of_not_lt beyond)

end Pattern

namespace Search

variable {pattern : Pattern} {data : Bytes} {search middle following : Search pattern data}

/-- An occurrence that is yielded lowers the bound, and where none is left it is zero. -/
theorem next_progress (search : Search pattern data) :
    match search.next with
    | (some _, following) => following.remaining < search.remaining
    | (none, following) => following.remaining = 0 := by
  generalize outcome : search.next = result
  unfold next at outcome
  split at outcome
  · split at outcome
    · rename_i fits
      subst outcome
      exact Nat.sub_succ_lt_self _ _ fits
    · rename_i beyond
      subst outcome
      exact Nat.sub_eq_zero_of_le (Nat.le_of_not_lt beyond)
  · rename_i anchor anchored
    subst outcome
    have progress := Pattern.seek_progress anchor anchored (pattern.searchEnd data) rfl
      search.position
    generalize pattern.seek data anchor anchored _ _ search.position = reached at progress ⊢
    split at progress
    · exact progress
    · exact progress

/-- Taking a number of occurrences off those still to come. -/
structure Advances (count : Nat) (search following : Search pattern data) : Prop where
  pending_eq : following.pending = search.pending.drop count
  remaining_add_le : following.remaining + min count search.pending.length ≤ search.remaining
  remaining_eq_zero : search.pending.length < count → following.remaining = 0

namespace Advances

theorem refl (search : Search pattern data) : Advances 0 search search where
  pending_eq := rfl
  remaining_add_le := by omega
  remaining_eq_zero := by omega

theorem remaining_le {count : Nat} (advances : Advances count search following) :
    following.remaining ≤ search.remaining :=
  Nat.le_of_add_right_le advances.remaining_add_le

theorem length_pending {count : Nat} (advances : Advances count search following) :
    following.pending.length = search.pending.length - count := by
  rw [advances.pending_eq, List.length_drop]

theorem trans {first second : Nat} (near : Advances first search middle)
    (far : Advances second middle following) : Advances (first + second) search following where
  pending_eq := by rw [far.pending_eq, near.pending_eq, List.drop_drop]
  remaining_add_le := by
    have nearLower := near.remaining_add_le
    have farLower := far.remaining_add_le
    rw [near.length_pending] at farLower
    omega
  remaining_eq_zero := by
    intro tooMany
    by_cases already : search.pending.length < first
    · have stopped := near.remaining_eq_zero already
      have := far.remaining_le
      omega
    · apply far.remaining_eq_zero
      rw [near.length_pending]
      omega

/-- Once too few occurrences were left, it makes no difference how many more were asked for. -/
theorem exceed {fewer more : Nat} (advances : Advances fewer search following)
    (exhausted : search.pending.length < fewer) (le : fewer ≤ more) :
    Advances more search following where
  pending_eq := by
    rw [advances.pending_eq, List.drop_of_length_le (Nat.le_of_lt exhausted),
      List.drop_of_length_le (Nat.le_of_lt (Nat.lt_of_lt_of_le exhausted le))]
  remaining_add_le := by
    have := advances.remaining_add_le
    omega
  remaining_eq_zero := fun _ => advances.remaining_eq_zero exhausted

end Advances

theorem next_advances (search : Search pattern data) : Advances 1 search search.next.2 := by
  have progress := search.next_progress
  split at progress
  · rename_i offset following step
    have split := pending_of_next_eq_some step
    rw [step]
    refine ⟨by rw [split, List.drop_one, List.tail_cons], ?_, ?_⟩
    · rw [split, List.length_cons, Nat.min_eq_left (Nat.succ_le_succ (Nat.zero_le _))]
      exact progress
    · rw [split, List.length_cons]
      omega
  · rename_i following step
    obtain ⟨nothing, left⟩ := pending_of_next_eq_none step
    rw [step]
    refine ⟨by rw [nothing, left, List.drop_nil], ?_, fun _ => progress⟩
    rw [nothing, List.length_nil, progress]
    omega

/-- Without an occurrence left, the next step stands for any number of steps. -/
theorem next_advances_of_none {count : Nat} (exhausted : search.next = (none, following)) :
    Advances (count + 1) search following := by
  have advances := search.next_advances
  rw [exhausted] at advances
  refine advances.exceed ?_ (Nat.succ_le_succ (Nat.zero_le count))
  rw [(pending_of_next_eq_none exhausted).1]
  exact Nat.one_pos

theorem nth_advances (count : Nat) (search : Search pattern data) :
    Advances (count + 1) search (search.nth count).2 := by
  induction count generalizing search with
  | zero => exact search.next_advances
  | succ count ih =>
      rw [nth]
      split
      · rename_i offset following step
        have advances := search.next_advances
        rw [step] at advances
        have both := advances.trans (ih following)
        rwa [Nat.add_comm 1] at both
      · rename_i following step
        exact next_advances_of_none step

theorem nth_fst (count : Nat) (search : Search pattern data) :
    (search.nth count).1 = search.pending[count]? := by
  induction count generalizing search with
  | zero => rw [nth, next_fst, List.head?_eq_getElem?]
  | succ count ih =>
      rw [nth]
      split
      · rename_i offset following step
        rw [ih, pending_of_next_eq_some step, List.getElem?_cons_succ]
      · rename_i following step
        rw [(pending_of_next_eq_none step).1, List.getElem?_nil]

theorem takeOnto_advances (found : Array Nat) (count : Nat) (search : Search pattern data) :
    Advances count search (search.takeOnto found count).2 := by
  induction count generalizing found search with
  | zero => exact Advances.refl search
  | succ count ih =>
      rw [takeOnto]
      split
      · rename_i offset following step
        have advances := search.next_advances
        rw [step] at advances
        have both := advances.trans (ih (found.push offset) following)
        rwa [Nat.add_comm 1] at both
      · rename_i following step
        exact next_advances_of_none step

theorem take_advances (count : Nat) (search : Search pattern data) :
    Advances count search (search.take count).2 :=
  takeOnto_advances #[] count search

/-- What a search may be asked for. -/
inductive Step where
  | next
  /-- Passes over a number of occurrences and asks for the one behind them. -/
  | nth (passed : Nat)
  /-- Asks for at most so many occurrences. -/
  | take (count : Nat)
  /-- Asks for the bound on the occurrences still to come. -/
  | bound
deriving DecidableEq, Repr

inductive Answer where
  | offset (found : Option Nat)
  | offsets (found : List Nat)
  | bound (upper : Nat)
deriving DecidableEq, Repr

/-- How many occurrences a step takes off, if there are as many. -/
def Step.demand : Step → Nat
  | .next => 1
  | .nth passed => passed + 1
  | .take count => count
  | .bound => 0

/-- Answers a request; the second component is the search that goes on from there. -/
def step (search : Search pattern data) : Step → Answer × Search pattern data
  | .next => (.offset search.next.1, search.next.2)
  | .nth passed => (.offset (search.nth passed).1, (search.nth passed).2)
  | .take count => (.offsets (search.take count).1.toList, (search.take count).2)
  | .bound => (.bound search.remaining, search)

/-- The search after some steps. -/
def after (search : Search pattern data) : List Step → Search pattern data
  | [] => search
  | step :: rest => (search.step step).2.after rest

theorem step_advances (search : Search pattern data) (step : Step) :
    Advances step.demand search (search.step step).2 := by
  cases step with
  | next => exact search.next_advances
  | nth passed => exact search.nth_advances passed
  | take count => exact search.take_advances count
  | bound => exact Advances.refl search

theorem step_fst (search : Search pattern data) (step : Step) :
    (search.step step).1 =
      match step with
      | .next => .offset search.pending.head?
      | .nth passed => .offset search.pending[passed]?
      | .take count => .offsets (search.pending.take count)
      | .bound => .bound search.remaining := by
  cases step with
  | next => exact congrArg Answer.offset search.next_fst
  | nth passed => exact congrArg Answer.offset (search.nth_fst passed)
  | take count => exact congrArg Answer.offsets (search.take_fst count)
  | bound => rfl

theorem after_advances (steps : List Step) (search : Search pattern data) :
    Advances (steps.map Step.demand).sum search (search.after steps) := by
  induction steps generalizing search with
  | nil => exact Advances.refl search
  | cons step rest ih => exact (search.step_advances step).trans (ih _)

/-- Whatever a search was asked for before, it goes on where the occurrences demanded so far end.
Each request is answered from there, and the bound is never too low. It falls by at least the number
of occurrences taken off, and is zero from the first request on that found too few of them. -/
theorem driven_search_yields_consecutive_pieces (pattern : Pattern) (data : Bytes)
    (before : List Step) :
    let search := (start pattern data).after before
    let left := (pattern.scanAll data).toList.drop (before.map Step.demand).sum
    (∀ request : Step, (search.step request).1 =
      match request with
      | .next => .offset left.head?
      | .nth passed => .offset left[passed]?
      | .take count => .offsets (left.take count)
      | .bound => .bound search.remaining) ∧
    search.rest.1.size = left.length ∧
    search.rest.1.back? = left.getLast? ∧
    left.length ≤ search.remaining ∧
    (∀ request : Step,
      (search.step request).2.remaining + min request.demand left.length ≤ search.remaining) ∧
    ∀ request : Step, left.length < request.demand →
      ∀ further : List Step, let later := (search.step request).2.after further
        later.remaining = 0 ∧ later.next.1 = none := by
  intro search left
  have pendingEq : search.pending = left := by
    rw [(after_advances before (start pattern data)).pending_eq, pending_start,
      ← Pattern.toList_scanAll]
  have found : search.rest.1.toList = left := search.rest_fst.trans pendingEq
  refine ⟨?_, ?_, ?_, ?_, ?_, ?_⟩
  · simpa only [pendingEq] using search.step_fst
  · rw [← found, Array.length_toList]
  · rw [← found, Array.getLast?_toList]
  · simpa only [pendingEq] using search.length_pending_le
  · intro request
    simpa only [pendingEq] using (search.step_advances request).remaining_add_le
  · intro request tooMany further later
    have stopped : (search.step request).2.remaining = 0 :=
      (search.step_advances request).remaining_eq_zero (pendingEq ▸ tooMany)
    have stillStopped : later.remaining = 0 :=
      Nat.eq_zero_of_le_zero (stopped ▸ (after_advances further _).remaining_le)
    have nothing : later.pending = [] :=
      List.length_eq_zero_iff.1 (Nat.eq_zero_of_le_zero (stillStopped ▸ later.length_pending_le))
    exact ⟨stillStopped, by rw [next_fst, nothing, List.head?_nil]⟩

end Search

end BytePattern
