import BytePattern.Proofs.Scan.Scanning
import BytePattern.Signature.Generation

/-!
# The addresses that a region holds

A region holds the addresses of its bytes. One byte can be read exactly at the addresses held, and
a scan lists no others. The test whether a region contains an address, however, looks at the end
of the region, which is never past the last address. So the last address counts as contained in
no region, even where a byte lies there that can be read and matched, and no pattern is generated
for it. No other address is treated that way.
-/

namespace BytePattern

namespace Region

/-- Whether one of the bytes of the region lies at the address. -/
def Holds (region : Region) (address : UInt64) : Prop :=
  region.base.toNat ≤ address.toNat ∧ address.toNat < region.base.toNat + region.size

theorem contains_iff {region : Region} {address : UInt64} :
    region.contains address = true ↔ region.Holds address ∧ address ≠ lastAddress := by
  have below := address.toNat_lt
  have last := toNat_lastAddress
  unfold addressLimit at last
  simp only [contains, Bool.and_eq_true, decide_eq_true_eq, UInt64.le_iff_toNat_le,
    UInt64.lt_iff_toNat_lt, toNat_stop, Holds, addressLimit, ne_eq, ← UInt64.toNat_inj]
  omega

theorem holds_of_contains {region : Region} {address : UInt64}
    (contained : region.contains address = true) : region.Holds address :=
  (contains_iff.1 contained).1

theorem isSome_readNumber?_one_iff {region : Region} {address : UInt64} :
    (region.readNumber? address 1).isSome = true ↔ region.Holds address := by
  simp only [readNumber?, Holds, UInt64.lt_iff_toNat_lt]
  rw [if_neg (by decide)]
  split
  · rename_i before
    simp only [Option.isSome_none, Bool.false_eq_true, false_iff]
    omega
  · rename_i notBefore
    split
    · rename_i inside
      simp only [Option.isSome_some, true_iff]
      omega
    · rename_i outside
      simp only [Option.isSome_none, Bool.false_eq_true, false_iff]
      omega

end Region

namespace RegionScan

theorem exists_holds_of_mem_scan {settings : Settings} {pattern : Pattern}
    {regions : List Region} {address : UInt64} (found : address ∈ scan settings pattern regions) :
    ∃ region ∈ regions, region.Holds address := by
  rw [scan_eq_take] at found
  obtain ⟨region, member, matched⟩ :=
    mem_matchAddresses_iff_exists_region.1 (List.mem_of_mem_take found)
  exact ⟨region, member, Region.bounds_of_mem_matchAddresses matched⟩

theorem exists_contains_iff_of_mem_scan {settings : Settings} {pattern : Pattern}
    {regions : List Region} {address : UInt64} (found : address ∈ scan settings pattern regions) :
    (∃ region ∈ regions, region.contains address = true) ↔ address ≠ lastAddress := by
  obtain ⟨region, member, holds⟩ := exists_holds_of_mem_scan found
  constructor
  · rintro ⟨other, -, contained⟩
    exact (Region.contains_iff.1 contained).2
  · intro notLast
    exact ⟨region, member, Region.contains_iff.2 ⟨holds, notLast⟩⟩

end RegionScan

namespace Generation

/-- Trying lengths never finds out that the address is unknown. -/
theorem tryLengths_ne_unknownAddress (settings : Settings) (regions : List Region)
    (address : UInt64) (available : List UInt8) (limit : Nat) (lengths : List Nat)
    (unknown : UInt64) :
    (tryLengths settings regions address available limit lengths).value ≠
      .error (.unknownAddress unknown) := by
  induction lengths with
  | nil => simp [tryLengths]
  | cons length rest ih =>
      rw [tryLengths, Logged.value_bind]
      split
      · rename_i result settled
        simp only [tryLength] at settled
        split at settled
        · cases settled
          simp
        · rw [Logged.value_bind] at settled
          split at settled
          · cases settled
            simp
          · cases settled
      · exact ih

theorem generate_eq_unknownAddress_iff {settings : Settings} {maximumLength : Nat}
    {regions : List Region} {address : UInt64} :
    generate settings maximumLength regions address = .error (.unknownAddress address) ↔
      ¬ ∃ region ∈ regions, region.contains address = true := by
  rw [generate, generateLogged]
  split
  · rename_i unknown
    rw [List.find?_eq_none] at unknown
    simp only [Logged.value_pure, true_iff]
    rintro ⟨region, member, contained⟩
    exact unknown region member contained
  · rename_i region found
    have contained : region.contains address = true := by
      simpa using List.find?_some found
    simp only [tryLengths_ne_unknownAddress, false_iff, not_not]
    exact ⟨region, List.mem_of_find?_eq_some found, contained⟩

end Generation

namespace RegionScan

/-- Reading a byte succeeds exactly at the addresses held, and so does the test whether a region
contains an address, except that it fails at the last address. Accordingly an address listed by a
scan is contained in a region, and a pattern can be sought for it, unless it is the last one. -/
theorem contained_iff_held_below_last (settings : Settings) (pattern : Pattern)
    (regions : List Region) (address : UInt64) :
    (∀ region : Region,
      ((region.readNumber? address 1).isSome = true ↔
        region.base.toNat ≤ address.toNat ∧
          address.toNat < region.base.toNat + region.size) ∧
      (region.contains address = true ↔
        (region.readNumber? address 1).isSome = true ∧ address ≠ lastAddress)) ∧
    (address ∈ scan settings pattern regions →
      (∃ region ∈ regions, (region.readNumber? address 1).isSome = true) ∧
      ((∃ region ∈ regions, region.contains address = true) ↔ address ≠ lastAddress) ∧
      ∀ (searched : Settings) (maximumLength : Nat),
        Generation.generate searched maximumLength regions address =
          .error (.unknownAddress address) ↔ address = lastAddress) := by
  refine ⟨fun region => ⟨Region.isSome_readNumber?_one_iff, ?_⟩, fun found => ?_⟩
  · rw [Region.contains_iff, Region.isSome_readNumber?_one_iff]
  · refine ⟨?_, exists_contains_iff_of_mem_scan found, fun searched maximumLength => ?_⟩
    · simpa only [Region.isSome_readNumber?_one_iff] using exists_holds_of_mem_scan found
    · rw [Generation.generate_eq_unknownAddress_iff, exists_contains_iff_of_mem_scan found,
        not_not]

/-- Two equal bytes at the last two addresses are both listed; only the lower one is contained. -/
theorem lower_of_two_listed_is_contained :
    ∃ pattern, Pattern.ofTokens? [.fixed 0x90] = some pattern ∧
      ∃ region : Region, region = ⟨"", 0xFFFFFFFFFFFFFFFE, #[0x90, 0x90]⟩ ∧
        0xFFFFFFFFFFFFFFFE ∈ scan {} pattern [region] ∧ lastAddress ∈ scan {} pattern [region] ∧
        (∃ other ∈ [region], other.contains 0xFFFFFFFFFFFFFFFE = true) ∧
        ¬ ∃ other ∈ [region], other.contains lastAddress = true := by
  have listed (pattern : Pattern) (built : Pattern.ofTokens? [.fixed 0x90] = some pattern) :
      scan {} pattern [⟨"", 0xFFFFFFFFFFFFFFFE, #[0x90, 0x90]⟩] =
        [0xFFFFFFFFFFFFFFFE, lastAddress] := by
    cases built
    rw [scan_eq_take, matchAddresses_eq_flatMap (by decide +kernel)]
    decide +kernel
  refine ⟨_, rfl, _, rfl, ?_⟩
  rw [listed _ rfl]
  have lower := (contained_iff_held_below_last {} _ _ 0xFFFFFFFFFFFFFFFE).2
    (listed _ rfl ▸ List.mem_cons_self)
  have upper := (contained_iff_held_below_last {} _ _ lastAddress).2
    (listed _ rfl ▸ List.mem_cons_of_mem _ List.mem_cons_self)
  refine ⟨by decide, by decide, lower.2.1.2 (by decide), fun contained => ?_⟩
  exact upper.2.1.1 contained rfl

/-- The byte at the last address can be read and is listed by a scan. Yet its region does not
contain the address, and no pattern is generated for it. -/
theorem last_address_held_not_contained :
    ∃ region : Region, region = ⟨"", lastAddress, #[0x90]⟩ ∧
      region.readNumber? lastAddress 1 = some 0x90 ∧
      region.contains lastAddress = false ∧
      ∃ pattern, Pattern.ofTokens? [.fixed 0x90] = some pattern ∧
        lastAddress ∈ scan {} pattern [region] ∧
        Generation.generate {} Generation.defaultMaximumLength [region] lastAddress =
          .error (.unknownAddress lastAddress) := by
  refine ⟨_, rfl, by decide, by decide, _, rfl, ?_, ?_⟩
  · rw [scan_eq_take, matchAddresses_eq_flatMap (by decide +kernel)]
    decide +kernel
  · rw [Generation.generate_eq_unknownAddress_iff]
    decide

end RegionScan

end BytePattern
