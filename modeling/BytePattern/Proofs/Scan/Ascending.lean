import Mathlib.Data.List.Sort

/-!
# Ascending lists of addresses

Sorting a list of addresses and dropping repeats leaves the ascending list of its members. The
first entries of an ascending list can be found piece by piece: an entry among the first of the
whole list is among the first of every ascending part that contains it, and the head is the least.
-/

namespace BytePattern.Ascending

/-- The repeats of the first entry are dropped before anything else. -/
theorem eraseReps_cons_cons {α : Type} [DecidableEq α] (first second : α) (rest : List α) :
    (first :: second :: rest).eraseReps =
      if first = second then (second :: rest).eraseReps
      else first :: (second :: rest).eraseReps := by
  have accumulated (kept : α) (others dropped : List α) :
      List.eraseRepsBy.loop (· == ·) kept others dropped =
        dropped.reverse ++ List.eraseRepsBy.loop (· == ·) kept others [] := by
    induction others generalizing kept dropped with
    | nil => simp [List.eraseRepsBy.loop]
    | cons other others ih =>
        simp only [List.eraseRepsBy.loop]
        split
        · exact ih kept dropped
        · rw [ih other (kept :: dropped), ih other [kept]]
          simp
  simp only [List.eraseReps, List.eraseRepsBy, List.eraseRepsBy.loop]
  by_cases same : first = second
  · simp [same]
  · simp only [beq_eq_false_iff_ne.2 same, if_neg same]
    simpa using accumulated second rest [first]

theorem mem_eraseReps_iff {α : Type} [DecidableEq α] {entries : List α} {entry : α} :
    entry ∈ entries.eraseReps ↔ entry ∈ entries := by
  induction entries with
  | nil => simp [List.eraseReps, List.eraseRepsBy]
  | cons first rest ih =>
      cases rest with
      | nil => simp [List.eraseReps, List.eraseRepsBy, List.eraseRepsBy.loop]
      | cons second rest =>
          rw [eraseReps_cons_cons]
          split
          · rename_i same
            rw [ih, same]
            simp
          · rw [List.mem_cons, ih, List.mem_cons (b := first)]

theorem pairwise_lt_eraseReps {addresses : List UInt64} (sorted : addresses.Pairwise (· ≤ ·)) :
    addresses.eraseReps.Pairwise (· < ·) := by
  induction addresses with
  | nil => simp [List.eraseReps, List.eraseRepsBy]
  | cons first rest ih =>
      cases rest with
      | nil => simp [List.eraseReps, List.eraseRepsBy, List.eraseRepsBy.loop]
      | cons second rest =>
          obtain ⟨lowest, later⟩ := List.pairwise_cons.1 sorted
          rw [eraseReps_cons_cons]
          split
          · exact ih later
          · rename_i differs
            refine List.pairwise_cons.2 ⟨?_, ih later⟩
            intro address member
            have firstLt : first < second :=
              UInt64.lt_of_le_of_ne (lowest second List.mem_cons_self) differs
            rcases List.mem_cons.1 (mem_eraseReps_iff.1 member) with here | behind
            · exact here ▸ firstLt
            · exact UInt64.lt_of_lt_of_le firstLt
                ((List.pairwise_cons.1 later).1 address behind)

theorem takeWhile_lt_eq_filter {numbers : List Nat} (ascending : numbers.Pairwise (· < ·))
    (bound : Nat) :
    (numbers.takeWhile fun number => number < bound) =
      numbers.filter fun number => number < bound := by
  induction numbers with
  | nil => rfl
  | cons first rest ih =>
      obtain ⟨lowest, later⟩ := List.pairwise_cons.1 ascending
      by_cases below : first < bound
      · simp [below, ih later]
      · have noneBelow : ∀ number ∈ rest, ¬ number < bound := by
          intro number member
          have := lowest number member
          omega
        simpa [below] using noneBelow

/-- The head of an ascending list is its least entry. -/
theorem head?_eq_some_iff {addresses : List UInt64} {address : UInt64}
    (ascending : addresses.Pairwise (· < ·)) :
    addresses.head? = some address ↔
      address ∈ addresses ∧ ∀ other ∈ addresses, address ≤ other := by
  cases addresses with
  | nil => simp
  | cons first rest =>
      have least : ∀ other ∈ first :: rest, first ≤ other := by
        intro other member
        rcases List.mem_cons.1 member with here | behind
        · exact here ▸ UInt64.le_refl first
        · exact UInt64.le_of_lt ((List.pairwise_cons.1 ascending).1 other behind)
      rw [List.head?_cons, Option.some.injEq]
      constructor
      · rintro rfl
        exact ⟨List.mem_cons_self, least⟩
      · rintro ⟨member, lowest⟩
        exact UInt64.le_antisymm (least address member) (lowest first List.mem_cons_self)

theorem sublist_of_subset {part whole : List UInt64} (partAscending : part.Pairwise (· < ·))
    (wholeAscending : whole.Pairwise (· < ·)) (subset : part ⊆ whole) : part.Sublist whole :=
  List.sublist_of_subperm_of_pairwise
    (List.subperm_of_subset partAscending.nodup subset) partAscending wholeAscending

/-- An entry among the first of a list is among the first of every part that contains it. -/
theorem mem_take_of_sublist {part whole : List UInt64} {address : UInt64} {limit : Nat}
    (sublist : part.Sublist whole) (nodup : whole.Nodup) (member : address ∈ part)
    (early : address ∈ whole.take limit) : address ∈ part.take limit := by
  induction sublist generalizing limit with
  | slnil => cases member
  | cons skipped sublist ih =>
      obtain ⟨fresh, nodup⟩ := List.nodup_cons.1 nodup
      cases limit with
      | zero => simp at early
      | succ limit =>
          rcases List.mem_cons.1 (by simpa using early) with here | behind
          · exact absurd (sublist.subset (here ▸ member)) fresh
          · exact List.take_subset_take_left _ (Nat.le_succ limit) (ih nodup member behind)
  | cons_cons kept sublist ih =>
      obtain ⟨fresh, nodup⟩ := List.nodup_cons.1 nodup
      cases limit with
      | zero => simp at early
      | succ limit =>
          rw [List.take_succ_cons, List.mem_cons] at early ⊢
          rcases early with here | behind
          · exact Or.inl here
          · right
            rcases List.mem_cons.1 member with here | later
            · exact absurd (here ▸ List.mem_of_mem_take behind) fresh
            · exact ih nodup later behind

/-- A part that contains the first entries of a list starts with them. -/
theorem take_eq_of_sublist {part whole : List UInt64} {limit : Nat}
    (sublist : part.Sublist whole) (nodup : whole.Nodup)
    (lowest : whole.take limit ⊆ part) : part.take limit = whole.take limit := by
  induction sublist generalizing limit with
  | slnil => rfl
  | cons skipped sublist ih =>
      obtain ⟨fresh, _⟩ := List.nodup_cons.1 nodup
      cases limit with
      | zero => rfl
      | succ limit =>
          have first := lowest (by simp : skipped ∈ _)
          exact absurd (sublist.subset first) fresh
  | cons_cons kept sublist ih =>
      obtain ⟨fresh, nodup⟩ := List.nodup_cons.1 nodup
      cases limit with
      | zero => rfl
      | succ limit =>
          rw [List.take_succ_cons, List.take_succ_cons, ih nodup]
          intro address early
          rcases List.mem_cons.1 (lowest (List.mem_cons_of_mem _ early)) with here | later
          · exact absurd (here ▸ List.mem_of_mem_take early) fresh
          · exact later

end BytePattern.Ascending
