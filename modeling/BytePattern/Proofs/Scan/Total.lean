import BytePattern.Proofs.Scan.Scanning
import BytePattern.Report

/-!
# How many matches a scan counts

The total of a scan is the number of match addresses when regions overlap, since the addresses
found are then complete and each is kept once. When the regions are disjoint the matches of all
chunks are added up. That counts every address once, except the last one: it is counted for every
region that matches there, because such regions count as disjoint.

In neither case do the settings have an influence on the total, and of the addresses they decide
only how many are listed.
-/

namespace BytePattern

namespace RegionScan

variable {settings : Settings} {pattern : Pattern} {regions : List Region}

theorem findings_countAll :
    findings settings pattern regions true =
      (chunks settings pattern regions).map fun chunk => chunk.search pattern
        (if Region.disjoint (Region.sortByBase regions) then settings.maxResults.toNat
          else addressLimit - 1) false := by
  simp only [findings, Bool.not_true, Bool.and_false, Bool.false_and, Bool.false_eq_true, if_false]

theorem sum_seen (found : List Chunk) (limit : Nat) :
    ((found.map fun chunk => chunk.search pattern limit false).map Chunk.Finding.seen).foldr
        (· + ·) 0 =
      (found.flatMap fun chunk => chunk.matchAddresses pattern).length := by
  rw [← List.sum_eq_foldr, List.map_map, List.length_flatMap]
  simp only [Function.comp_def, Chunk.search_eq, Bool.false_eq_true, if_false]

theorem length_flatMap_of_disjoint
    (separate : Region.disjoint (Region.sortByBase regions) = true) :
    ((Region.sortByBase regions).flatMap fun region => region.matchAddresses pattern).length =
      (matchAddresses pattern regions).length +
        (regions.countP (fun region => region.matchesAtLast pattern) - 1) := by
  have ordered := Region.pairwise_matchAddresses_of_disjoint pattern separate
  have distinct : ((Region.sortByBase regions).flatMap fun region =>
      region.matchAddresses pattern).eraseReps = matchAddresses pattern regions := by
    apply eq_matchAddresses (Ascending.pairwise_lt_eraseReps (ordered.imp PrecedesOrLast.le))
    intro address
    rw [Ascending.mem_eraseReps_iff, List.mem_flatMap]
    simp only [(Region.sortByBase_perm regions).mem_iff]
  rw [PrecedesOrLast.length_eq_of_pairwise ordered, distinct, Region.count_lastAddress_flatMap,
    (Region.sortByBase_perm regions).countP_eq]

theorem length_matchAddresses_le_of_chunk {chunk : Chunk}
    (member : chunk ∈ chunks settings pattern regions) :
    (chunk.matchAddresses pattern).length ≤ addressLimit - 1 := by
  obtain ⟨region, -, chunkMem⟩ := List.mem_flatMap.1 member
  obtain ⟨index, -, rfl⟩ := List.mem_map.1 chunkMem
  refine Nat.le_trans (region.length_matchAddresses_chunkAt_le pattern _ _) ?_
  have := settings.chunkSize.toNat_lt
  unfold addressLimit
  omega

/-- Matches of regions that may overlap are all kept, and each address once. -/
theorem length_of_overlapping (settings : Settings) (pattern : Pattern)
    (regions : List Region) :
    ((((chunks settings pattern regions).map fun chunk =>
        chunk.search pattern (addressLimit - 1) false).flatMap
          Chunk.Finding.addresses).mergeSort (· ≤ ·)).eraseReps.length =
      (matchAddresses pattern regions).length := by
  congr 1
  apply eq_matchAddresses
    (Ascending.pairwise_lt_eraseReps (List.pairwise_mergeSort' (· ≤ ·) _))
  intro address
  rw [Ascending.mem_eraseReps_iff, List.mem_mergeSort, flatMap_addresses_search,
    ← mem_matchAddresses_iff_exists_region, ← exists_chunk_iff settings,
    List.mem_flatMap]
  constructor
  · rintro ⟨chunk, member, matched⟩
    exact ⟨chunk, member, List.mem_of_mem_take matched⟩
  · rintro ⟨chunk, member, matched⟩
    refine ⟨chunk, member, ?_⟩
    rwa [List.take_of_length_le (length_matchAddresses_le_of_chunk member)]

/-- How often the last address is counted again. -/
def recounted (pattern : Pattern) (regions : List Region) : Nat :=
  if Region.disjoint (Region.sortByBase regions) then
    regions.countP (fun region => region.matchesAtLast pattern) - 1
  else 0

theorem total_scanWithTotal (settings : Settings) (pattern : Pattern) (regions : List Region) :
    (scanWithTotal settings pattern regions).total =
      (matchAddresses pattern regions).length + recounted pattern regions := by
  rw [scanWithTotal, value_run, findings_countAll]
  simp only [merge, recounted]
  split
  · rename_i separate
    rw [sum_seen, flatMap_matchAddresses_chunks, length_flatMap_of_disjoint separate]
  · rw [Nat.add_zero]
    exact length_of_overlapping settings pattern regions

theorem addresses_scanWithTotal (settings : Settings) (pattern : Pattern)
    (regions : List Region) :
    (scanWithTotal settings pattern regions).addresses =
      (matchAddresses pattern regions).take settings.maxResults.toNat :=
  addresses_run true

theorem recounted_eq_zero_iff :
    recounted pattern regions = 0 ↔
      ¬ (Region.disjoint (Region.sortByBase regions) = true ∧
        2 ≤ regions.countP fun region => region.matchesAtLast pattern) := by
  unfold recounted
  split
  · rename_i separate
    simp only [separate, true_and]
    omega
  · rename_i overlapping
    exact iff_of_true rfl fun shared => overlapping shared.1

theorem recounted_eq_zero_of_not_mem (absent : lastAddress ∉ matchAddresses pattern regions) :
    recounted pattern regions = 0 := by
  have notFound : lastAddress ∉ regions.flatMap fun region => region.matchAddresses pattern := by
    rw [List.mem_flatMap, ← mem_matchAddresses_iff_exists_region]
    exact absent
  rw [recounted, ← Region.count_lastAddress_flatMap, List.count_eq_zero.2 notFound]
  exact ite_self 0

/-- The total is the number of distinct match addresses and what is counted again of the last
address. It is that number, and the list and the mark of a truncated report agree with it, unless
the regions count as disjoint and two of them match at the last address. -/
theorem total_counts_match_addresses (settings : Settings) (pattern : Pattern)
    (regions : List Region) :
    (scanWithTotal settings pattern regions).total =
      (matchAddresses pattern regions).length + recounted pattern regions ∧
    (((scanWithTotal settings pattern regions).total = (matchAddresses pattern regions).length ∧
        (scanWithTotal settings pattern regions).addresses.length =
          min (scanWithTotal settings pattern regions).total settings.maxResults.toNat ∧
        ∀ elapsed, (Report.mk pattern (scanWithTotal settings pattern regions).addresses
            (scanWithTotal settings pattern regions).total elapsed).truncated = true ↔
          settings.maxResults.toNat < (matchAddresses pattern regions).length) ↔
      ¬ (Region.disjoint (Region.sortByBase regions) = true ∧
        2 ≤ regions.countP fun region => region.matchesAtLast pattern)) := by
  refine ⟨total_scanWithTotal settings pattern regions, ?_⟩
  rw [← recounted_eq_zero_iff, addresses_scanWithTotal, total_scanWithTotal, List.length_take]
  constructor
  · rintro ⟨exact, -⟩
    omega
  · intro once
    refine ⟨by omega, by omega, fun elapsed => ?_⟩
    simp only [Report.truncated, List.length_take, decide_eq_true_eq]
    omega

/-- Two regions of one byte at the last address: the address is counted twice and listed once, so
the report says that a match is missing from it. -/
theorem last_address_counted_twice :
    ∃ pattern, Pattern.ofTokens? [.fixed 0x90] = some pattern ∧
      ∃ regions : List Region,
        regions = [⟨"", lastAddress, #[0x90]⟩, ⟨"", lastAddress, #[0x90]⟩] ∧
        matchAddresses pattern regions = [lastAddress] ∧
        (scanWithTotal {} pattern regions).addresses = [lastAddress] ∧
        (scanWithTotal {} pattern regions).total = 2 ∧
        (Report.mk pattern (scanWithTotal {} pattern regions).addresses
          (scanWithTotal {} pattern regions).total 0).truncated = true := by
  refine ⟨_, rfl, _, rfl, ?_⟩
  rw [Report.truncated, addresses_scanWithTotal, total_scanWithTotal, recounted,
    Region.sortByBase, List.mergeSort_of_pairwise (by decide)]
  decide +kernel

/-- Two scans of the same regions count the same, and the one that lists fewer addresses lists the
first of those that the other one lists, whatever else differs in their settings. A scan that may
stop early lists what a scan lists that counts all matches, and never more than are counted. -/
theorem scans_differ_only_in_limit (pattern : Pattern) (regions : List Region)
    (narrow wide : Settings) :
    (scanWithTotal narrow pattern regions).total = (scanWithTotal wide pattern regions).total ∧
    (narrow.maxResults ≤ wide.maxResults →
      (scanWithTotal narrow pattern regions).addresses =
        (scanWithTotal wide pattern regions).addresses.take narrow.maxResults.toNat) ∧
    scan narrow pattern regions = (scanWithTotal narrow pattern regions).addresses ∧
    (scanWithTotal narrow pattern regions).addresses.length ≤
      (scanWithTotal narrow pattern regions).total := by
  simp only [addresses_scanWithTotal, total_scanWithTotal, scan_eq_take, true_and]
  refine ⟨fun narrower => ?_, ?_⟩
  · rw [List.take_take, Nat.min_eq_left (UInt64.le_iff_toNat_le.1 narrower)]
  · exact Nat.le_trans (List.length_take_le' _ _) (Nat.le_add_right _ _)

/-- Of two regions that share an address, one scan in chunks of one byte lists the first match
only, the other one lists both matches. -/
theorem narrow_scan_lists_first :
    ∃ pattern, Pattern.ofTokens? [.fixed 0x90] = some pattern ∧
      ∃ (regions : List Region) (narrow wide : Settings),
        regions = [⟨"", 0x1000, #[0x90, 0x90]⟩, ⟨"", 0x1001, #[0x90]⟩] ∧
        narrow = { maxResults := 1, chunkSize := 1, parallel := false } ∧ wide = {} ∧
        narrow.maxResults ≤ wide.maxResults ∧
        (scanWithTotal wide pattern regions).addresses = [0x1000, 0x1001] ∧
        (scanWithTotal narrow pattern regions).addresses = [0x1000] := by
  refine ⟨_, rfl, _, { maxResults := 1, chunkSize := 1, parallel := false }, {}, rfl, rfl, rfl,
    by decide, ?_⟩
  rw [(scans_differ_only_in_limit _ _ { maxResults := 1, chunkSize := 1, parallel := false }
    {}).2.1 (by decide), addresses_scanWithTotal]
  have ascending : [(0x1000 : UInt64), 0x1001].Pairwise (· < ·) := by decide
  rw [← eq_matchAddresses ascending]
  · exact ⟨rfl, rfl⟩
  · intro address
    rw [← List.mem_flatMap]
    change _ ↔ address ∈ [0x1000, 0x1001, 0x1001]
    simp

end RegionScan

end BytePattern
