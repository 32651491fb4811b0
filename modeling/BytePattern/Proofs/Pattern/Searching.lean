import BytePattern.Proofs.Pattern.Skipping
import Mathlib.Data.List.Sort

/-!
# What a search yields

A search is understood through the occurrences still to come, which its position determines. One
step yields the first of them and leaves the others to come; every longer drive of the search takes
a piece off that list. A search that starts at the beginning has all occurrences still to come, so
each way of searching reads off the naive list of occurrences.
-/

namespace BytePattern

namespace Pattern

/-- The occurrences from a position on, found by trying every offset at which the pattern fits. -/
def occurrencesFrom (pattern : Pattern) (data : Bytes) (position : Nat) : List Nat :=
  (List.range' position (pattern.searchEnd data - position)).filter fun offset =>
    pattern.OccursAt data offset

variable {pattern : Pattern} {data : Bytes}

theorem lt_searchEnd_of_occursAt {offset : Nat} (occurs : pattern.OccursAt data offset) :
    offset < pattern.searchEnd data := by
  have fits := occurs.1
  unfold searchEnd
  omega

theorem mem_occurrencesFrom_iff {position offset : Nat} :
    offset ∈ pattern.occurrencesFrom data position ↔
      position ≤ offset ∧ pattern.OccursAt data offset := by
  simp only [occurrencesFrom, List.mem_filter, List.mem_range'_1, decide_eq_true_eq]
  constructor
  · rintro ⟨⟨after, _⟩, occurs⟩
    exact ⟨after, occurs⟩
  · rintro ⟨after, occurs⟩
    have := lt_searchEnd_of_occursAt occurs
    exact ⟨⟨after, by omega⟩, occurs⟩

theorem pairwise_lt_occurrencesFrom (position : Nat) :
    (pattern.occurrencesFrom data position).Pairwise (· < ·) :=
  List.Pairwise.filter _ List.pairwise_lt_range'

theorem length_occurrencesFrom_le (position : Nat) :
    (pattern.occurrencesFrom data position).length ≤ pattern.searchEnd data - position := by
  simpa [occurrencesFrom] using
    List.length_filter_le (fun offset => decide (pattern.OccursAt data offset))
      (List.range' position (pattern.searchEnd data - position))

theorem occurrencesFrom_zero : pattern.occurrencesFrom data 0 = pattern.occurrences data := by
  apply (pairwise_lt_occurrencesFrom 0).eq_of_mem_iff (pairwise_lt_occurrences pattern data)
  intro offset
  rw [mem_occurrencesFrom_iff, mem_occurrences_iff]
  exact and_iff_right (Nat.zero_le offset)

theorem occurrencesFrom_eq_nil {position : Nat} (stopped : pattern.searchEnd data ≤ position) :
    pattern.occurrencesFrom data position = [] := by
  rw [occurrencesFrom, Nat.sub_eq_zero_of_le stopped]
  rfl

/-- A position may move on over offsets at which the pattern does not occur. -/
theorem occurrencesFrom_eq_of_none_between {position following : Nat}
    (forwards : position ≤ following)
    (none : ∀ offset, position ≤ offset → offset < following →
      ¬ pattern.OccursAt data offset) :
    pattern.occurrencesFrom data position = pattern.occurrencesFrom data following := by
  apply (pairwise_lt_occurrencesFrom _).eq_of_mem_iff (pairwise_lt_occurrencesFrom _)
  intro offset
  rw [mem_occurrencesFrom_iff, mem_occurrencesFrom_iff]
  constructor
  · rintro ⟨after, occurs⟩
    refine ⟨?_, occurs⟩
    by_contra before
    exact none offset after (by omega) occurs
  · rintro ⟨after, occurs⟩
    exact ⟨by omega, occurs⟩

theorem occurrencesFrom_eq_cons {position : Nat} (occurs : pattern.OccursAt data position) :
    pattern.occurrencesFrom data position =
      position :: pattern.occurrencesFrom data (position + 1) := by
  have ascending : (position :: pattern.occurrencesFrom data (position + 1)).Pairwise (· < ·) := by
    refine List.pairwise_cons.2 ⟨?_, pairwise_lt_occurrencesFrom _⟩
    intro offset later
    exact (mem_occurrencesFrom_iff.1 later).1
  apply (pairwise_lt_occurrencesFrom _).eq_of_mem_iff ascending
  intro offset
  rw [List.mem_cons, mem_occurrencesFrom_iff, mem_occurrencesFrom_iff]
  constructor
  · rintro ⟨after, found⟩
    rcases Nat.eq_or_lt_of_le after with here | later
    · exact Or.inl here.symm
    · exact Or.inr ⟨later, found⟩
  · rintro (here | ⟨later, found⟩)
    · subst here
      exact ⟨Nat.le_refl _, occurs⟩
    · exact ⟨by omega, found⟩

/-- Seeking finds the first occurrence from the position on and stops where the others lie
ahead. The induction follows the windows that are tried. -/
theorem seek_spec (anchor : Anchor) (anchored : pattern.anchor = some anchor) (stop : Nat)
    (bound : stop = pattern.searchEnd data) (position : Nat) :
    (pattern.seek data anchor anchored stop bound position).1 =
        (pattern.occurrencesFrom data position).head? ∧
      pattern.occurrencesFrom data (pattern.seek data anchor anchored stop bound position).2 =
        (pattern.occurrencesFrom data position).tail := by
  fun_induction seek pattern data anchor anchored stop bound position with
  | case1 position fits inside byte following matched =>
      simp only [Bool.and_eq_true] at matched
      have seen : data[position + anchor.index]? = some byte := Array.getElem?_eq_getElem inside
      have occurs := (matchesAt_iff_occursAt _ _ _).1 matched.2
      have skipped : pattern.occurrencesFrom data (position + 1) =
          pattern.occurrencesFrom data following := by
        apply occurrencesFrom_eq_of_none_between
        · have := pattern.shifts.get_pos byte
          omega
        · intro offset after before
          exact not_occursAt_of_skipped anchored seen after before
      rw [occurrencesFrom_eq_cons occurs, skipped]
      exact ⟨rfl, rfl⟩
  | case2 position fits inside byte following unmatched ih =>
      have seen : data[position + anchor.index]? = some byte := Array.getElem?_eq_getElem inside
      have absent : ¬ pattern.OccursAt data position := by
        intro occurs
        apply unmatched
        rw [Bool.and_eq_true, beq_iff_eq]
        exact ⟨anchor_byte_of_occursAt anchored seen occurs,
          (matchesAt_iff_occursAt _ _ _).2 occurs⟩
      have skipped : pattern.occurrencesFrom data position =
          pattern.occurrencesFrom data following := by
        apply occurrencesFrom_eq_of_none_between (Nat.le_add_right _ _)
        intro offset after before
        rcases Nat.eq_or_lt_of_le after with here | later
        · exact here ▸ absent
        · exact not_occursAt_of_skipped anchored seen later before
      rw [skipped]
      exact ih
  | case3 position beyond =>
      rw [occurrencesFrom_eq_nil (by omega)]
      exact ⟨rfl, rfl⟩

theorem occursAt_of_anchor_eq_none {position : Nat} (unanchored : pattern.anchor = none)
    (fits : position < pattern.searchEnd data) : pattern.OccursAt data position := by
  refine ⟨by unfold searchEnd at fits; omega, ?_⟩
  intro index token byte isToken _
  have wild := Anchor.eq_wildcard_of_ofTokens?_eq_none (pattern.anchor_eq ▸ unanchored)
    (List.mem_of_getElem? isToken)
  rw [wild]
  exact Token.wildcard_admits byte

end Pattern

namespace Search

variable {pattern : Pattern} {data : Bytes}

def pending (search : Search pattern data) : List Nat :=
  pattern.occurrencesFrom data search.position

@[simp] theorem pending_start :
    (start pattern data).pending = pattern.occurrences data :=
  Pattern.occurrencesFrom_zero

theorem length_pending_le (search : Search pattern data) :
    search.pending.length ≤ search.remaining :=
  Pattern.length_occurrencesFrom_le search.position

/-- One step yields the first of the occurrences to come and leaves the others. -/
theorem next_spec (search : Search pattern data) :
    search.next.1 = search.pending.head? ∧ search.next.2.pending = search.pending.tail := by
  unfold next
  split
  · rename_i unanchored
    split
    · rename_i fits
      have occurs := Pattern.occursAt_of_anchor_eq_none unanchored fits
      simp only [pending, Pattern.occurrencesFrom_eq_cons occurs]
      exact ⟨rfl, rfl⟩
    · rename_i beyond
      have nothing : search.pending = [] :=
        Pattern.occurrencesFrom_eq_nil (Nat.le_of_not_lt beyond)
      rw [nothing]
      exact ⟨rfl, rfl⟩
  · rename_i anchor anchored
    exact Pattern.seek_spec anchor anchored _ rfl search.position

@[simp] theorem next_fst (search : Search pattern data) :
    search.next.1 = search.pending.head? :=
  search.next_spec.1

theorem pending_of_next_eq_some {search following : Search pattern data} {offset : Nat}
    (step : search.next = (some offset, following)) :
    search.pending = offset :: following.pending := by
  obtain ⟨yielded, left⟩ := search.next_spec
  rw [step] at yielded left
  obtain ⟨others, split⟩ := List.head?_eq_some_iff.1 yielded.symm
  rw [left, split, List.tail_cons]

theorem pending_of_next_eq_none {search following : Search pattern data}
    (step : search.next = (none, following)) : search.pending = [] ∧ following.pending = [] := by
  obtain ⟨yielded, left⟩ := search.next_spec
  rw [step] at yielded left
  have nothing : search.pending = [] := List.head?_eq_none_iff.1 yielded.symm
  exact ⟨nothing, by rw [left, nothing, List.tail_nil]⟩

/-- Taking appends a piece of the occurrences to come and leaves the rest of them. -/
theorem takeOnto_spec (found : Array Nat) (count : Nat) (search : Search pattern data) :
    (takeOnto found count search).1.toList = found.toList ++ search.pending.take count ∧
      (takeOnto found count search).2.pending = search.pending.drop count := by
  induction count generalizing found search with
  | zero => simp [takeOnto]
  | succ count ih =>
      rw [takeOnto]
      split
      · rename_i offset following step
        obtain ⟨taken, dropped⟩ := ih (found.push offset) following
        rw [taken, dropped, pending_of_next_eq_some step]
        simp
      · rename_i following step
        obtain ⟨nothing, left⟩ := pending_of_next_eq_none step
        rw [left, nothing]
        simp

theorem take_fst (count : Nat) (search : Search pattern data) :
    (search.take count).1.toList = search.pending.take count := by
  simpa [take] using (takeOnto_spec #[] count search).1

theorem rest_fst (search : Search pattern data) :
    search.rest.1.toList = search.pending := by
  rw [rest, take_fst, List.take_of_length_le search.length_pending_le]

/-- The slots are filled from the first one on with the occurrences to come, as many as there are of
both. -/
theorem writeInto_eq (count : Nat) (slots : List (Option Nat)) (search : Search pattern data) :
    let written := min slots.length search.pending.length
    search.writeInto count slots =
      (count + written, (search.pending.take written).map some ++ slots.drop written) := by
  intro written
  induction slots generalizing count search with
  | nil => simp [written, writeInto]
  | cons slot slots ih =>
      rw [writeInto]
      split
      · rename_i offset following step
        have split := pending_of_next_eq_some step
        have one : written = min slots.length following.pending.length + 1 := by
          simp only [written, split, List.length_cons, Nat.add_min_add_right]
        rw [ih, one, split, List.take_succ_cons, List.map_cons, List.drop_succ_cons,
          List.cons_append, Nat.add_assoc, Nat.add_comm 1]
      · rename_i following step
        simp [written, pending_of_next_eq_none step]

end Search

namespace Pattern

theorem toList_scan (pattern : Pattern) (data : Bytes) (limit : Nat) :
    (pattern.scan data limit).toList = (pattern.occurrences data).take limit := by
  rw [scan, Search.take_fst, Search.pending_start]

theorem toList_scanAll (pattern : Pattern) (data : Bytes) :
    (pattern.scanAll data).toList = pattern.occurrences data := by
  rw [scanAll, Search.rest_fst, Search.pending_start]

theorem mem_toList_scanAll_iff {pattern : Pattern} {data : Bytes} {offset : Nat} :
    offset ∈ (pattern.scanAll data).toList ↔ pattern.OccursAt data offset := by
  rw [toList_scanAll, mem_occurrences_iff]

/-- Slots are filled from the first one on, as many as there are both slots and occurrences. -/
theorem scanInto_eq (pattern : Pattern) (data : Bytes) (slots : List (Option Nat)) :
    let offsets := pattern.occurrences data
    let count := min slots.length offsets.length
    pattern.scanInto data slots = (count, (offsets.take count).map some ++ slots.drop count) := by
  have filled := Search.writeInto_eq 0 slots (Search.start pattern data)
  simpa only [scanInto, Search.pending_start, Nat.zero_add] using filled

theorem findFirst_eq_head? (pattern : Pattern) (data : Bytes) :
    pattern.findFirst data = (pattern.occurrences data).head? := by
  rw [findFirst, Search.next_fst, Search.pending_start]

/-- Every way of searching for a list of tokens agrees with comparing all windows: the offsets
found are, in ascending order, all those at which each token admits its byte. -/
theorem searches_agree_with_windows (first : Token) (others : List Token) :
    ∃ pattern, ofTokens? (first :: others) = some pattern ∧ ∀ data : Bytes,
      (pattern.scanAll data).toList.Pairwise (· < ·) ∧
      (∀ offset, offset ∈ (pattern.scanAll data).toList ↔
        offset + (first :: others).length ≤ data.size ∧
          ∀ (index : Nat) (token : Token) (byte : UInt8),
            (first :: others)[index]? = some token → data[offset + index]? = some byte →
              token.admits byte = true) ∧
      (∀ limit, (pattern.scan data limit).toList = (pattern.scanAll data).toList.take limit) ∧
      pattern.findFirst data = (pattern.scanAll data).toList.head? ∧
      pattern.countIn data = (pattern.scanAll data).toList.length ∧
      ∀ offset, pattern.matchesAt data offset = true ↔
        offset ∈ (pattern.scanAll data).toList := by
  cases built : ofTokens? (first :: others) with
  | none => exact absurd (ofTokens?_eq_none_iff.1 built) (List.cons_ne_nil _ _)
  | some pattern =>
      refine ⟨pattern, rfl, fun data => ?_⟩
      rw [toList_scanAll, ← tokens_of_ofTokens? built]
      refine ⟨pairwise_lt_occurrences pattern data, ?_, ?_, ?_, ?_, ?_⟩
      · intro offset
        exact mem_occurrences_iff
      · intro limit
        exact toList_scan pattern data limit
      · exact findFirst_eq_head? pattern data
      · rw [countIn, ← Array.length_toList, toList_scanAll]
      · intro offset
        rw [matchesAt_iff_occursAt, mem_occurrences_iff]

end Pattern

end BytePattern
