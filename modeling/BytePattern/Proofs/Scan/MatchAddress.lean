import BytePattern.Pattern.Occurrence
import BytePattern.Region
import BytePattern.Proofs.Scan.Ascending
import Mathlib.Algebra.GroupWithZero.Nat
import Mathlib.Data.List.Dedup

/-!
# Match addresses

The addresses at which a pattern occurs in some of several regions, said without chunks, limits or
an order of the regions: all occurrences in all regions that have an address, each address once.
-/

namespace BytePattern

theorem addressAt?_eq_some_iff {base address : UInt64} {offset : Nat} :
    addressAt? base offset = some address ↔ base.toNat + offset = address.toNat := by
  unfold addressAt? addressLimit
  split
  · rename_i inside
    rw [Option.some.injEq, ← UInt64.toNat_inj, UInt64.toNat_ofNat_of_lt' inside]
  · rename_i outside
    have := address.toNat_lt
    constructor
    · intro impossible
      cases impossible
    · intro equal
      omega

theorem addressAt?_eq_none_iff {base : UInt64} {offset : Nat} :
    addressAt? base offset = none ↔ addressLimit ≤ base.toNat + offset := by
  unfold addressAt?
  split <;> simp <;> omega

theorem lt_of_addressAt?_of_lt {base lower higher : UInt64} {near far : Nat} (lt : near < far)
    (lowerAt : addressAt? base near = some lower) (higherAt : addressAt? base far = some higher) :
    lower < higher := by
  rw [addressAt?_eq_some_iff] at lowerAt higherAt
  rw [UInt64.lt_iff_toNat_lt]
  omega

theorem Pattern.length_occurrences_le (pattern : Pattern) (data : Bytes) :
    (pattern.occurrences data).length ≤ data.size := by
  simpa [occurrences] using
    List.length_filter_le (fun offset => decide (pattern.OccursAt data offset))
      (List.range data.size)

namespace Region

/-- The addresses in one region at which the pattern occurs. -/
def matchAddresses (region : Region) (pattern : Pattern) : List UInt64 :=
  (pattern.occurrences region.bytes).filterMap (addressAt? region.base)

theorem mem_matchAddresses_iff {region : Region} {pattern : Pattern} {address : UInt64} :
    address ∈ region.matchAddresses pattern ↔
      ∃ offset, pattern.matchesAt region.bytes offset = true ∧
        region.base.toNat + offset = address.toNat := by
  simp only [matchAddresses, List.mem_filterMap, Pattern.mem_occurrences_iff,
    Pattern.matchesAt_iff_occursAt, addressAt?_eq_some_iff]

theorem pairwise_lt_matchAddresses (region : Region) (pattern : Pattern) :
    (region.matchAddresses pattern).Pairwise (· < ·) := by
  rw [matchAddresses, List.pairwise_filterMap]
  apply (pattern.pairwise_lt_occurrences region.bytes).imp
  intro near far lt lower lowerAt higher higherAt
  exact lt_of_addressAt?_of_lt lt lowerAt higherAt

theorem matchAddresses_eq_nil {region : Region} {pattern : Pattern}
    (short : region.size < pattern.span) : region.matchAddresses pattern = [] := by
  have nowhere : pattern.occurrences region.bytes = [] := by
    rw [List.eq_nil_iff_forall_not_mem]
    intro offset member
    have fits := (Pattern.mem_occurrences_iff.1 member).1
    unfold size at short
    omega
  rw [matchAddresses, nowhere]
  rfl

theorem bounds_of_mem_matchAddresses {region : Region} {pattern : Pattern} {address : UInt64}
    (member : address ∈ region.matchAddresses pattern) :
    region.base.toNat ≤ address.toNat ∧ address.toNat < region.base.toNat + region.size := by
  obtain ⟨offset, matched, equal⟩ := mem_matchAddresses_iff.1 member
  have fits := ((Pattern.matchesAt_iff_occursAt _ _ _).1 matched).1
  have := pattern.span_pos
  unfold size
  omega

end Region

namespace RegionScan

/-- All addresses at which the pattern occurs in some region, the lowest first and each once. -/
def matchAddresses (pattern : Pattern) (regions : List Region) : List UInt64 :=
  (regions.flatMap fun region => region.matchAddresses pattern).dedup.mergeSort (· ≤ ·)

theorem mem_matchAddresses_iff_exists_region {pattern : Pattern} {regions : List Region}
    {address : UInt64} :
    address ∈ matchAddresses pattern regions ↔
      ∃ region ∈ regions, address ∈ region.matchAddresses pattern := by
  rw [matchAddresses, List.mem_mergeSort, List.mem_dedup, List.mem_flatMap]

theorem mem_matchAddresses_iff {pattern : Pattern} {regions : List Region} {address : UInt64} :
    address ∈ matchAddresses pattern regions ↔
      ∃ region ∈ regions, ∃ offset, pattern.matchesAt region.bytes offset = true ∧
        region.base.toNat + offset = address.toNat := by
  simp only [mem_matchAddresses_iff_exists_region, Region.mem_matchAddresses_iff]

theorem pairwise_lt_matchAddresses (pattern : Pattern) (regions : List Region) :
    (matchAddresses pattern regions).Pairwise (· < ·) := by
  have sorted : (matchAddresses pattern regions).Pairwise (· ≤ ·) :=
    List.pairwise_mergeSort' (· ≤ ·) _
  have nodup : (matchAddresses pattern regions).Nodup :=
    (List.mergeSort_perm _ _).nodup_iff.2 (List.nodup_dedup _)
  exact (sorted.and nodup).imp fun ⟨le, ne⟩ => UInt64.lt_of_le_of_ne le ne

/-- An ascending list with the right members is the list of match addresses. -/
theorem eq_matchAddresses {pattern : Pattern} {regions : List Region} {addresses : List UInt64}
    (ascending : addresses.Pairwise (· < ·))
    (members : ∀ address, address ∈ addresses ↔
      ∃ region ∈ regions, address ∈ region.matchAddresses pattern) :
    addresses = matchAddresses pattern regions := by
  apply ascending.eq_of_mem_iff (pairwise_lt_matchAddresses pattern regions)
  intro address
  rw [members, mem_matchAddresses_iff_exists_region]

/-- Regions whose matches ascend as they stand need no sorting. -/
theorem matchAddresses_eq_flatMap {pattern : Pattern} {regions : List Region}
    (ascending : (regions.flatMap fun region =>
      region.matchAddresses pattern).Pairwise (· < ·)) :
    matchAddresses pattern regions =
      regions.flatMap fun region => region.matchAddresses pattern :=
  (eq_matchAddresses ascending fun _ => List.mem_flatMap).symm

theorem matchAddresses_sublist {pattern : Pattern} {regions : List Region} {region : Region}
    (member : region ∈ regions) :
    (region.matchAddresses pattern).Sublist (matchAddresses pattern regions) := by
  apply Ascending.sublist_of_subset (region.pairwise_lt_matchAddresses pattern)
    (pairwise_lt_matchAddresses pattern regions)
  intro address matched
  exact mem_matchAddresses_iff_exists_region.2 ⟨region, member, matched⟩

theorem length_matchAddresses_le (pattern : Pattern) (regions : List Region) :
    (matchAddresses pattern regions).length ≤ (regions.map Region.size).sum := by
  rw [matchAddresses, List.length_mergeSort]
  refine Nat.le_trans (List.dedup_sublist _).length_le ?_
  induction regions with
  | nil => exact Nat.le_refl 0
  | cons region rest ih =>
      have inRegion : (region.matchAddresses pattern).length ≤ region.size :=
        Nat.le_trans (List.length_filterMap_le _ _) (pattern.length_occurrences_le region.bytes)
      rw [List.flatMap_cons, List.length_append, List.map_cons, List.sum_cons]
      exact Nat.add_le_add inRegion ih

end RegionScan

end BytePattern
