import BytePattern.RegionScan
import BytePattern.Proofs.Scan.MatchAddress

/-!
# Disjoint regions

Regions are called disjoint when each ends before the next begins. Their matches, read region by
region, then ascend. There is one exception: the end of a region is never past the last address,
so a region that holds the last address and one that begins there still count as disjoint, and
the last address may be read several times. It is the only address that can be.
-/

namespace BytePattern

def lastAddress : UInt64 := 0xFFFFFFFFFFFFFFFF

theorem toNat_lastAddress : lastAddress.toNat + 1 = addressLimit := by
  decide

theorem le_lastAddress (address : UInt64) : address ≤ lastAddress := by
  rw [UInt64.le_iff_toNat_le]
  have := address.toNat_lt
  have := toNat_lastAddress
  unfold addressLimit at this
  omega

/-- One address lies before the other, or both are the last address. -/
def PrecedesOrLast (first second : UInt64) : Prop :=
  first < second ∨ first = lastAddress ∧ second = lastAddress

namespace PrecedesOrLast

theorem le {first second : UInt64} (ordered : PrecedesOrLast first second) : first ≤ second := by
  rcases ordered with before | ⟨rfl, rfl⟩
  · exact UInt64.le_of_lt before
  · exact le_lastAddress _

theorem lt_of_ne {first second : UInt64} (ordered : PrecedesOrLast first second)
    (differs : first ≠ second) : first < second := by
  rcases ordered with before | ⟨rfl, rfl⟩
  · exact before
  · exact absurd rfl differs

/-- Nothing that precedes an address not read yet is the last address, so there are no repeats. -/
theorem pairwise_lt_of_not_mem {read : List UInt64} {address : UInt64}
    (ordered : (read ++ [address]).Pairwise PrecedesOrLast) (fresh : address ∉ read) :
    (read ++ [address]).Pairwise (· < ·) := by
  obtain ⟨readOrdered, -, before⟩ := List.pairwise_append.1 ordered
  have lower : ∀ other ∈ read, other < address := by
    intro other member
    apply (before other member address List.mem_cons_self).lt_of_ne
    rintro rfl
    exact fresh member
  refine List.pairwise_append.2 ⟨?_, List.pairwise_singleton _ _, ?_⟩
  · refine readOrdered.imp_of_mem ?_
    intro first second _ secondMem precedes
    rcases precedes with before | ⟨-, isLast⟩
    · exact before
    · have beyond := lower second secondMem
      rw [isLast] at beyond
      exact absurd beyond (UInt64.not_lt.2 (le_lastAddress address))
  · intro other member second here
    rw [List.mem_singleton.1 here]
    exact lower other member

/-- Repeats of the last address are all that tells the length of such a list from the number of
its distinct entries. -/
theorem length_eq_of_pairwise {addresses : List UInt64}
    (ordered : addresses.Pairwise PrecedesOrLast) :
    addresses.length = addresses.eraseReps.length + (addresses.count lastAddress - 1) := by
  induction addresses with
  | nil => rfl
  | cons first rest ih =>
      cases rest with
      | nil =>
          have atMostOne : [first].count lastAddress ≤ 1 := List.count_le_length
          simp only [List.eraseReps, List.eraseRepsBy, List.eraseRepsBy.loop,
            List.length_cons, List.length_nil, List.length_reverse]
          omega
      | cons second rest =>
          obtain ⟨firstOrdered, later⟩ := List.pairwise_cons.1 ordered
          have ih := ih later
          rw [Ascending.eraseReps_cons_cons, List.length_cons, ih]
          rcases firstOrdered second List.mem_cons_self with before | ⟨rfl, rfl⟩
          · have differs : first ≠ second := UInt64.ne_of_lt before
            have notLast : first ≠ lastAddress := by
              rintro rfl
              exact UInt64.not_lt.2 (le_lastAddress second) before
            rw [if_neg differs, List.length_cons, List.count_cons_of_ne notLast]
            omega
          · simp only [if_true, List.count_cons_self]
            omega

end PrecedesOrLast

namespace Region

theorem toNat_stop (region : Region) :
    region.stop.toNat = min (region.base.toNat + region.size) (addressLimit - 1) := by
  rw [stop, UInt64.toNat_ofNat_of_lt']
  show min _ (2 ^ 64 - 1) < 2 ^ 64
  omega

theorem base_le_stop (region : Region) : region.base ≤ region.stop := by
  rw [UInt64.le_iff_toNat_le, toNat_stop]
  have := region.base.toNat_lt
  unfold addressLimit
  omega

theorem sortByBase_perm (regions : List Region) : (sortByBase regions).Perm regions :=
  List.mergeSort_perm regions _

/-- What holds of neighbours holds of all pairs, since no region ends before it begins. -/
theorem pairwise_stop_le_base_of_disjoint {regions : List Region}
    (separate : disjoint regions = true) :
    regions.Pairwise fun first second => first.stop ≤ second.base := by
  induction regions with
  | nil => exact List.Pairwise.nil
  | cons first rest ih =>
      cases rest with
      | nil => exact List.pairwise_singleton _ _
      | cons second rest =>
          simp only [disjoint, Bool.and_eq_true, decide_eq_true_eq] at separate
          obtain ⟨neighbours, separate⟩ := separate
          have later := ih separate
          refine List.pairwise_cons.2 ⟨?_, later⟩
          intro other member
          rcases List.mem_cons.1 member with rfl | behind
          · exact neighbours
          · calc first.stop ≤ second.base := neighbours
              _ ≤ second.stop := second.base_le_stop
              _ ≤ other.base := (List.pairwise_cons.1 later).1 other behind

theorem precedesOrLast_of_stop_le_base {first second : Region} {pattern : Pattern}
    {lower higher : UInt64} (separate : first.stop ≤ second.base)
    (lowerMem : lower ∈ first.matchAddresses pattern)
    (higherMem : higher ∈ second.matchAddresses pattern) : PrecedesOrLast lower higher := by
  have lowerBounds := bounds_of_mem_matchAddresses lowerMem
  have higherBounds := bounds_of_mem_matchAddresses higherMem
  have lowerLt := lower.toNat_lt
  have higherLt := higher.toNat_lt
  have last := toNat_lastAddress
  rw [UInt64.le_iff_toNat_le, toNat_stop] at separate
  unfold addressLimit at separate last
  unfold PrecedesOrLast
  rw [UInt64.lt_iff_toNat_lt, ← UInt64.toNat_inj, ← UInt64.toNat_inj]
  omega

/-- The matches of disjoint regions ascend, up to repeats of the last address. -/
theorem pairwise_matchAddresses_of_disjoint {regions : List Region} (pattern : Pattern)
    (separate : disjoint regions = true) :
    (regions.flatMap fun region => region.matchAddresses pattern).Pairwise PrecedesOrLast := by
  rw [List.pairwise_flatMap]
  constructor
  · intro region _
    exact (region.pairwise_lt_matchAddresses pattern).imp Or.inl
  · apply (pairwise_stop_le_base_of_disjoint separate).imp
    intro first second separate lower lowerMem higher higherMem
    exact precedesOrLast_of_stop_le_base separate lowerMem higherMem

def matchesAtLast (region : Region) (pattern : Pattern) : Bool :=
  pattern.matchesAt region.bytes (lastAddress.toNat - region.base.toNat)

theorem count_lastAddress_matchAddresses (region : Region) (pattern : Pattern) :
    (region.matchAddresses pattern).count lastAddress =
      if region.matchesAtLast pattern then 1 else 0 := by
  have nodup := (region.pairwise_lt_matchAddresses pattern).nodup
  have member : lastAddress ∈ region.matchAddresses pattern ↔
      region.matchesAtLast pattern = true := by
    rw [mem_matchAddresses_iff, matchesAtLast]
    have reachable := UInt64.le_iff_toNat_le.1 (le_lastAddress region.base)
    constructor
    · rintro ⟨offset, matched, equal⟩
      rw [← equal, Nat.add_sub_cancel_left]
      exact matched
    · intro matched
      exact ⟨_, matched, Nat.add_sub_cancel' reachable⟩
  split
  · rename_i matched
    exact List.count_eq_one_of_mem nodup (member.2 matched)
  · rename_i unmatched
    exact List.count_eq_zero.2 fun inside => unmatched (member.1 inside)

theorem count_lastAddress_flatMap (regions : List Region) (pattern : Pattern) :
    (regions.flatMap fun region => region.matchAddresses pattern).count lastAddress =
      regions.countP fun region => region.matchesAtLast pattern := by
  induction regions with
  | nil => rfl
  | cons region rest ih =>
      rw [List.flatMap_cons, List.count_append, ih, count_lastAddress_matchAddresses,
        List.countP_cons, Nat.add_comm]

end Region

end BytePattern
