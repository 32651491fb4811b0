import BytePattern.Proofs.Scan.Scanning

/-!
# The first match

Looking for the first match takes the regions in order of their bases and stops at the first
region that has a match. The lowest match of that region is the lowest of all unless a region
behind it has a lower one. Then the two regions overlap and hold different bytes at an address
that they share: where all regions agree on the bytes they share, the first match found is the
first that a scan lists.
-/

namespace BytePattern

namespace Region

theorem findFirst_bind_addressAt? (region : Region) (pattern : Pattern) :
    (pattern.findFirst region.bytes).bind (addressAt? region.base) =
      (region.matchAddresses pattern).head? := by
  rw [Pattern.findFirst_eq_head?, matchAddresses]
  have ascending := pattern.pairwise_lt_occurrences region.bytes
  generalize pattern.occurrences region.bytes = offsets at ascending ⊢
  cases offsets with
  | nil => rfl
  | cons offset rest =>
      rw [List.head?_cons, Option.bind_some, List.filterMap_cons]
      cases found : addressAt? region.base offset with
      | some address => rfl
      | none =>
          -- the first offset has no address, so the higher ones have none either
          have beyond : rest.filterMap (addressAt? region.base) = [] := by
            rw [List.filterMap_eq_nil_iff]
            intro other member
            have behind := (List.pairwise_cons.1 ascending).1 other member
            rw [addressAt?_eq_none_iff] at found ⊢
            omega
          rw [beyond]
          rfl

theorem pairwise_base_le_sortByBase (regions : List Region) :
    (sortByBase regions).Pairwise fun first second : Region => first.base ≤ second.base := by
  have transitive (first second third : Region) :
      decide (first.base ≤ second.base) = true → decide (second.base ≤ third.base) = true →
        decide (first.base ≤ third.base) = true := by
    simpa using UInt64.le_trans
  have total (first second : Region) :
      (decide (first.base ≤ second.base) || decide (second.base ≤ first.base)) = true := by
    simpa using UInt64.le_total first.base second.base
  simpa [sortByBase] using List.pairwise_mergeSort transitive total regions

/-- Whether regions that share an address hold the same byte there. -/
def AgreeOnBytes (regions : List Region) : Prop :=
  ∀ first ∈ regions, ∀ second ∈ regions, ∀ (near far : Nat) (firstByte secondByte : UInt8),
    first.base.toNat + near = second.base.toNat + far →
      first.bytes[near]? = some firstByte → second.bytes[far]? = some secondByte →
        firstByte = secondByte

/-- A region matches where a region behind it matches below one of its own matches, if they agree:
the lower window lies inside the region too. -/
theorem mem_matchAddresses_of_agree {regions : List Region} {first second : Region}
    {pattern : Pattern} {lower higher : UInt64} (agree : AgreeOnBytes regions)
    (firstMem : first ∈ regions) (secondMem : second ∈ regions)
    (behind : first.base ≤ second.base) (higherMem : higher ∈ first.matchAddresses pattern)
    (lowerMem : lower ∈ second.matchAddresses pattern) (below : lower ≤ higher) :
    lower ∈ first.matchAddresses pattern := by
  simp only [mem_matchAddresses_iff, Pattern.matchesAt_iff_occursAt] at higherMem lowerMem ⊢
  obtain ⟨near, nearOccurs, nearAt⟩ := higherMem
  obtain ⟨far, farOccurs, farAt⟩ := lowerMem
  rw [UInt64.le_iff_toNat_le] at behind below
  have shared : first.base.toNat + (lower.toNat - first.base.toNat) = lower.toNat := by omega
  have nearFits := nearOccurs.1
  refine ⟨lower.toNat - first.base.toNat, ⟨by omega, ?_⟩, shared⟩
  intro index token byte isToken isByte
  have within : index < pattern.span := (List.getElem?_eq_some_iff.1 isToken).1
  have farFits := farOccurs.1
  have isFarByte : second.bytes[far + index]? = some second.bytes[far + index] :=
    Array.getElem?_eq_getElem (by omega)
  rw [agree first firstMem second secondMem _ _ _ _ (by omega) isByte isFarByte]
  exact farOccurs.2 index token _ isToken isFarByte

end Region

namespace RegionScan

variable {settings : Settings} {pattern : Pattern} {regions : List Region}

theorem findFirst_eq_findSome? (pattern : Pattern) (regions : List Region) :
    findFirst pattern regions =
      (Region.sortByBase regions).findSome? fun region =>
        (region.matchAddresses pattern).head? := by
  simp only [findFirst, Region.findFirst_bind_addressAt?]

theorem head?_scan (wanted : 0 < settings.maxResults) :
    (scan settings pattern regions).head? = (matchAddresses pattern regions).head? := by
  have some : settings.maxResults.toNat ≠ 0 := Nat.ne_of_gt (UInt64.lt_iff_toNat_lt.1 wanted)
  rw [scan_eq_take, List.head?_take, if_neg some]

theorem findFirst_eq_none_iff :
    findFirst pattern regions = none ↔ matchAddresses pattern regions = [] := by
  simp only [findFirst_eq_findSome?, List.findSome?_eq_none_iff, List.head?_eq_none_iff,
    List.eq_nil_iff_forall_not_mem, mem_matchAddresses_iff_exists_region,
    (Region.sortByBase_perm regions).mem_iff, not_exists, not_and]
  constructor
  · intro nowhere address region member
    exact nowhere region member address
  · intro nowhere region member address
    exact nowhere address region member

/-- The address found is the lowest match of a region before whose base no region that matches
begins. -/
theorem region_of_findFirst_eq_some {address : UInt64}
    (found : findFirst pattern regions = some address) :
    ∃ region ∈ regions, (region.matchAddresses pattern).head? = some address ∧
      ∀ other ∈ regions, other.base < region.base → other.matchAddresses pattern = [] := by
  rw [findFirst_eq_findSome?, List.findSome?_eq_some_iff] at found
  obtain ⟨before, region, after, split, lowest, nothing⟩ := found
  have ordered := Region.pairwise_base_le_sortByBase regions
  have mem_iff (other : Region) : other ∈ regions ↔ other ∈ before ++ region :: after := by
    rw [← split, (Region.sortByBase_perm regions).mem_iff]
  refine ⟨region, (mem_iff region).2 (by simp), lowest, fun other member lower => ?_⟩
  rw [split] at ordered
  obtain ⟨-, behind, -⟩ := List.pairwise_append.1 ordered
  rcases List.mem_append.1 ((mem_iff other).1 member) with earlier | later
  · exact List.head?_eq_none_iff.1 (nothing other earlier)
  · rcases List.mem_cons.1 later with rfl | later
    · exact absurd lower (UInt64.lt_irrefl _)
    · exact absurd lower (UInt64.not_lt.2 ((List.pairwise_cons.1 behind).1 other later))

theorem mem_matchAddresses_of_findFirst {address : UInt64}
    (found : findFirst pattern regions = some address) :
    address ∈ matchAddresses pattern regions := by
  obtain ⟨region, member, lowest, -⟩ := region_of_findFirst_eq_some found
  exact mem_matchAddresses_iff_exists_region.2 ⟨region, member, List.mem_of_head? lowest⟩

theorem head?_scan_eq_some_iff {address : UInt64} (wanted : 0 < settings.maxResults)
    (found : findFirst pattern regions = some address) :
    (scan settings pattern regions).head? = some address ↔
      ∀ other ∈ regions, ∀ lower ∈ other.matchAddresses pattern, address ≤ lower := by
  rw [head?_scan wanted, Ascending.head?_eq_some_iff (pairwise_lt_matchAddresses pattern regions)]
  constructor
  · rintro ⟨-, least⟩ other member lower matched
    exact least lower (mem_matchAddresses_iff_exists_region.2 ⟨other, member, matched⟩)
  · intro least
    refine ⟨mem_matchAddresses_of_findFirst found, fun lower matched => ?_⟩
    obtain ⟨other, member, matched⟩ := mem_matchAddresses_iff_exists_region.1 matched
    exact least other member lower matched

theorem findFirst_eq_head?_scan_of_agree (wanted : 0 < settings.maxResults)
    (agree : Region.AgreeOnBytes regions) :
    findFirst pattern regions = (scan settings pattern regions).head? := by
  cases found : findFirst pattern regions with
  | none =>
      rw [head?_scan wanted, findFirst_eq_none_iff.1 found]
      rfl
  | some address =>
      symm
      rw [head?_scan_eq_some_iff wanted found]
      intro other member lower matched
      obtain ⟨region, regionMem, lowest, nothing⟩ := region_of_findFirst_eq_some found
      have ascending := region.pairwise_lt_matchAddresses pattern
      obtain ⟨addressMem, least⟩ := (Ascending.head?_eq_some_iff ascending).1 lowest
      -- a region that begins earlier has no match at all, so the other one begins behind
      have behind : region.base ≤ other.base := by
        rw [← UInt64.not_lt]
        intro earlier
        rw [nothing other member earlier] at matched
        exact List.not_mem_nil matched
      rw [← UInt64.not_lt]
      intro below
      have inRegion := Region.mem_matchAddresses_of_agree agree regionMem member behind
        addressMem matched (UInt64.le_of_lt below)
      exact UInt64.not_lt.2 (least lower inRegion) below

/-- A first match is found exactly if a scan lists any, and it is the lowest match of the region
of lowest base that has one. It is the first that a scan lists exactly if no other region has a
lower match, which is so whenever the regions agree on the bytes at the addresses they share. -/
theorem findFirst_eq_head?_scan_iff (settings : Settings) (pattern : Pattern)
    (regions : List Region) (wanted : 0 < settings.maxResults) :
    (findFirst pattern regions = none ↔ scan settings pattern regions = []) ∧
    (∀ address, findFirst pattern regions = some address →
      (∃ region ∈ regions, (region.matchAddresses pattern).head? = some address ∧
        ∀ other ∈ regions, other.base < region.base → other.matchAddresses pattern = []) ∧
      ((scan settings pattern regions).head? = some address ↔
        ∀ other ∈ regions, ∀ lower ∈ other.matchAddresses pattern, address ≤ lower)) ∧
    (Region.AgreeOnBytes regions →
      findFirst pattern regions = (scan settings pattern regions).head?) := by
  refine ⟨?_, fun address found => ?_, findFirst_eq_head?_scan_of_agree wanted⟩
  · rw [findFirst_eq_none_iff, ← List.head?_eq_none_iff, ← head?_scan wanted,
      List.head?_eq_none_iff]
  · exact ⟨region_of_findFirst_eq_some found, head?_scan_eq_some_iff wanted found⟩

/-- The upper of two overlapping regions matches at an address that the lower one shares; both
hold the same byte there, and the lowest match is found. -/
theorem findFirst_of_agreeing_regions :
    ∃ pattern, Pattern.ofTokens? [.fixed 0xCC] = some pattern ∧
      ∃ regions : List Region,
        regions = [⟨"", 0x1000, #[0xCC, 0xCC]⟩, ⟨"", 0x1001, #[0xCC]⟩] ∧
        (0 : UInt64) < ({} : Settings).maxResults ∧ Region.AgreeOnBytes regions ∧
        findFirst pattern regions = some 0x1000 ∧
        (scan {} pattern regions).head? = some 0x1000 := by
  refine ⟨_, rfl, _, rfl, by decide, ?_⟩
  have same (region : Region)
      (member : region ∈ [⟨"", 0x1000, #[0xCC, 0xCC]⟩, ⟨"", 0x1001, #[0xCC]⟩]) :
      ∀ byte ∈ region.bytes, byte = 0xCC := by
    simp only [List.mem_cons, List.not_mem_nil, or_false] at member
    rcases member with rfl | rfl <;> simp
  have agree : Region.AgreeOnBytes
      [⟨"", 0x1000, #[0xCC, 0xCC]⟩, ⟨"", 0x1001, #[0xCC]⟩] := by
    intro first firstMem second secondMem near far firstByte secondByte _ isFirst isSecond
    rw [same first firstMem _ (Array.mem_of_getElem? isFirst),
      same second secondMem _ (Array.mem_of_getElem? isSecond)]
  rw [← (findFirst_eq_head?_scan_iff {} _ _ (by decide)).2.2 agree, and_self]
  refine ⟨agree, ?_⟩
  rw [findFirst_eq_findSome?, Region.sortByBase, List.mergeSort_of_pairwise (by decide)]
  decide +kernel

/-- A region that begins behind another one, and holds a different byte there, has a match below
the first match of the other. The higher match is found, while a scan lists the lower one first. -/
theorem first_match_above_lowest :
    ∃ pattern, Pattern.ofTokens? [.fixed 0x90] = some pattern ∧
      ∃ regions : List Region,
        regions = [⟨"", 0x1000, #[0x00, 0x00, 0x90]⟩, ⟨"", 0x1001, #[0x90]⟩] ∧
        findFirst pattern regions = some 0x1002 ∧
        scan {} pattern regions = [0x1001, 0x1002] := by
  refine ⟨_, rfl, _, rfl, ?_, ?_⟩
  · rw [findFirst_eq_findSome?, Region.sortByBase, List.mergeSort_of_pairwise (by decide)]
    decide +kernel
  · have ascending : [(0x1001 : UInt64), 0x1002].Pairwise (· < ·) := by decide
    rw [scan_eq_take, ← eq_matchAddresses ascending]
    · rfl
    · intro address
      rw [← List.mem_flatMap]
      exact List.Perm.mem_iff (by decide +kernel)

end RegionScan

end BytePattern
