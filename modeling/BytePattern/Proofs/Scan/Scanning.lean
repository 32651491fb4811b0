import BytePattern.Proofs.Scan.Chunking
import BytePattern.Proofs.Scan.Disjoint
import Mathlib.Data.List.Flatten

/-!
# What a scan lists

Each chunk keeps its lowest matches only, and a scan of disjoint regions may stop before the last
chunk. Neither loses one of the lowest matches of all: a match among the lowest of all is among
the lowest of its chunk, and behind the chunks that were searched there are only higher addresses.
So the addresses listed are the lowest match addresses, whatever the settings.
-/

namespace BytePattern

namespace Chunk

/-- The search in order takes a first part of the chunks, which is all of them unless it has found
enough. -/
theorem searchUntil_spec (pattern : Pattern) (limit wanted : Nat) (chunks : List Chunk) :
    ∃ searched unsearched, chunks = searched ++ unsearched ∧
      (searchUntil pattern limit wanted chunks).flatMap Finding.addresses =
        (searched.flatMap fun chunk => (chunk.matchAddresses pattern).take limit) ∧
      (unsearched = [] ∨ wanted ≤
        (searched.flatMap fun chunk => (chunk.matchAddresses pattern).take limit).length) := by
  induction chunks generalizing wanted with
  | nil => exact ⟨[], [], rfl, rfl, Or.inl rfl⟩
  | cons chunk rest ih =>
      have listed : (chunk.search pattern limit true).addresses =
          (chunk.matchAddresses pattern).take limit := by rw [search_eq]
      simp only [searchUntil, listed]
      split
      · rename_i enough
        refine ⟨[chunk], rest, rfl, ?_, Or.inr ?_⟩
        · rw [List.flatMap_singleton, List.flatMap_singleton, listed]
        · rw [List.flatMap_singleton]
          exact enough
      · rename_i tooFew
        obtain ⟨searched, unsearched, split, found, complete⟩ :=
          ih (wanted - ((chunk.matchAddresses pattern).take limit).length)
        refine ⟨chunk :: searched, unsearched, by rw [split, List.cons_append], ?_, ?_⟩
        · rw [List.flatMap_cons, List.flatMap_cons, listed, found]
        · rcases complete with all | enough
          · exact Or.inl all
          · right
            rw [List.flatMap_cons, List.length_append]
            omega

end Chunk

namespace RegionScan

variable {settings : Settings} {pattern : Pattern} {regions : List Region}

def chunks (settings : Settings) (pattern : Pattern) (regions : List Region) : List Chunk :=
  (searched settings pattern regions).flatMap fun region =>
    region.chunks settings.chunkSize.toNat pattern.span

def findings (settings : Settings) (pattern : Pattern) (regions : List Region)
    (countAll : Bool) : List Chunk.Finding :=
  let limit := settings.maxResults.toNat
  let disjoint := Region.disjoint (Region.sortByBase regions)
  let chunkLimit := if disjoint then limit else addressLimit - 1
  let early := disjoint && !countAll
  if early && !settings.parallel then
    Chunk.searchUntil pattern chunkLimit limit (chunks settings pattern regions)
  else (chunks settings pattern regions).map fun chunk => chunk.search pattern chunkLimit early

theorem value_run (countAll : Bool) :
    (run settings pattern regions countAll).value =
      merge settings.maxResults.toNat (Region.disjoint (Region.sortByBase regions))
        (findings settings pattern regions countAll) := by
  simp only [run, Logged.value_bind, Logged.value_pure, List.flatMap_map]
  rfl

theorem flatMap_matchAddresses_searched :
    ((searched settings pattern regions).flatMap fun region => region.matchAddresses pattern) =
      (Region.sortByBase regions).flatMap fun region => region.matchAddresses pattern := by
  unfold searched
  induction Region.sortByBase regions with
  | nil => rfl
  | cons region rest ih =>
      rw [List.filter_cons]
      split
      · rw [List.flatMap_cons, List.flatMap_cons, ih]
      · rename_i skipped
        have short : region.size < pattern.span := by
          simp only [Bool.not_eq_true, Bool.not_eq_false', Bool.and_eq_true,
            decide_eq_true_eq] at skipped
          exact skipped.2
        rw [List.flatMap_cons, Region.matchAddresses_eq_nil short, ih, List.nil_append]

theorem flatMap_matchAddresses_chunks (settings : Settings) :
    ((chunks settings pattern regions).flatMap fun chunk => chunk.matchAddresses pattern) =
      (Region.sortByBase regions).flatMap fun region => region.matchAddresses pattern := by
  rw [chunks, List.flatMap_assoc]
  simp only [Region.flatMap_matchAddresses_chunks]
  exact flatMap_matchAddresses_searched

theorem exists_chunk_iff (settings : Settings) {address : UInt64} :
    (∃ chunk ∈ chunks settings pattern regions, address ∈ chunk.matchAddresses pattern) ↔
      address ∈ matchAddresses pattern regions := by
  rw [← List.mem_flatMap, flatMap_matchAddresses_chunks, List.mem_flatMap,
    mem_matchAddresses_iff_exists_region]
  simp only [(Region.sortByBase_perm regions).mem_iff]

theorem chunk_matchAddresses_sublist {chunk : Chunk}
    (member : chunk ∈ chunks settings pattern regions) :
    (chunk.matchAddresses pattern).Sublist (matchAddresses pattern regions) := by
  obtain ⟨region, regionMem, chunkMem⟩ := List.mem_flatMap.1 member
  have regionMem : region ∈ regions :=
    (Region.sortByBase_perm regions).mem_iff.1 (List.mem_of_mem_filter regionMem)
  refine List.Sublist.trans ?_ (matchAddresses_sublist regionMem)
  rw [← region.flatMap_matchAddresses_chunks pattern settings.chunkSize.toNat, List.flatMap_def]
  exact List.sublist_flatten_of_mem (List.mem_map_of_mem chunkMem)

/-- A chunk that keeps enough matches keeps those that are among the lowest of all. -/
theorem mem_take_of_chunk {chunk : Chunk} {address : UInt64} {limit kept : Nat}
    (member : chunk ∈ chunks settings pattern regions)
    (matched : address ∈ chunk.matchAddresses pattern) (enough : limit ≤ kept)
    (early : address ∈ (matchAddresses pattern regions).take limit) :
    address ∈ (chunk.matchAddresses pattern).take kept :=
  Ascending.mem_take_of_sublist (chunk_matchAddresses_sublist member)
    (pairwise_lt_matchAddresses pattern regions).nodup matched
    (List.take_subset_take_left _ enough early)

/-- Merging lists the lowest entries of an ascending list once they have all been found. -/
theorem addresses_merge {limit : Nat} {disjoint : Bool} {found : List Chunk.Finding}
    {whole : List UInt64} (ascending : whole.Pairwise (· < ·))
    (inside : found.flatMap Chunk.Finding.addresses ⊆ whole)
    (lowest : whole.take limit ⊆ found.flatMap Chunk.Finding.addresses) :
    (merge limit disjoint found).addresses = whole.take limit := by
  have sorted := Ascending.pairwise_lt_eraseReps
    (List.pairwise_mergeSort' (· ≤ ·) (found.flatMap Chunk.Finding.addresses))
  have part := Ascending.sublist_of_subset sorted ascending (by
    intro address member
    exact inside (List.mem_mergeSort.1 (Ascending.mem_eraseReps_iff.1 member)))
  apply Ascending.take_eq_of_sublist part ascending.nodup
  intro address early
  exact Ascending.mem_eraseReps_iff.2 (List.mem_mergeSort.2 (lowest early))

theorem flatMap_addresses_search (found : List Chunk) (kept : Nat) (early : Bool) :
    (found.map fun chunk => chunk.search pattern kept early).flatMap Chunk.Finding.addresses =
      found.flatMap fun chunk => (chunk.matchAddresses pattern).take kept := by
  simp only [List.flatMap_map, Chunk.search_eq]

theorem lowest_subset_of_all (settings : Settings) (pattern : Pattern) (regions : List Region)
    {limit kept : Nat} (enough : limit ≤ kept) :
    (matchAddresses pattern regions).take limit ⊆
      (chunks settings pattern regions).flatMap fun chunk =>
        (chunk.matchAddresses pattern).take kept := by
  intro address early
  obtain ⟨chunk, member, matched⟩ :=
    (exists_chunk_iff settings).2 (List.mem_of_mem_take early)
  exact List.mem_flatMap.2 ⟨chunk, member, mem_take_of_chunk member matched enough early⟩

/-- In disjoint regions the lowest matches are found before the search stops. A lower match left
behind would have as many found matches before it as are wanted. -/
theorem lowest_subset_of_enough {limit : Nat} {searched unsearched : List Chunk}
    (separate : Region.disjoint (Region.sortByBase regions) = true)
    (split : chunks settings pattern regions = searched ++ unsearched)
    (enough : limit ≤
      (searched.flatMap fun chunk => (chunk.matchAddresses pattern).take limit).length) :
    (matchAddresses pattern regions).take limit ⊆
      searched.flatMap fun chunk => (chunk.matchAddresses pattern).take limit := by
  intro address early
  let found := searched.flatMap fun chunk => (chunk.matchAddresses pattern).take limit
  obtain ⟨chunk, member, matched⟩ :=
    (exists_chunk_iff settings).2 (List.mem_of_mem_take early)
  have inChunk := mem_take_of_chunk member matched (Nat.le_refl limit) early
  rw [split] at member
  rcases List.mem_append.1 member with before | behind
  · exact List.mem_flatMap.2 ⟨chunk, before, inChunk⟩
  by_contra missing
  have foundPart : found.Sublist
      (searched.flatMap fun chunk => chunk.matchAddresses pattern) :=
    List.Sublist.flatMap_right searched fun chunk _ => List.take_sublist limit _
  have ordered : (found ++ [address]).Pairwise PrecedesOrLast := by
    have whole := Region.pairwise_matchAddresses_of_disjoint pattern separate
    rw [← flatMap_matchAddresses_chunks settings, split,
      List.flatMap_append] at whole
    refine whole.sublist (foundPart.append ?_)
    exact List.singleton_sublist.2 (List.mem_flatMap.2 ⟨chunk, behind, matched⟩)
  have ascending := PrecedesOrLast.pairwise_lt_of_not_mem ordered missing
  have part : (found ++ [address]).Sublist (matchAddresses pattern regions) := by
    apply Ascending.sublist_of_subset ascending (pairwise_lt_matchAddresses pattern regions)
    intro other otherMem
    apply (exists_chunk_iff settings).1
    rw [split]
    rcases List.mem_append.1 otherMem with foundMem | here
    · obtain ⟨owner, ownerMem, ownerMatched⟩ := List.mem_flatMap.1 (foundPart.subset foundMem)
      exact ⟨owner, List.mem_append_left _ ownerMem, ownerMatched⟩
    · rw [List.mem_singleton.1 here]
      exact ⟨chunk, List.mem_append_right _ behind, matched⟩
  have amongFirst := Ascending.mem_take_of_sublist part
    (pairwise_lt_matchAddresses pattern regions).nodup
    (List.mem_append_right _ List.mem_cons_self) early
  rw [List.take_append_of_le_length enough] at amongFirst
  exact missing (List.mem_of_mem_take amongFirst)

theorem flatMap_addresses_findings (settings : Settings) (pattern : Pattern)
    (regions : List Region) (countAll : Bool) :
    (findings settings pattern regions countAll).flatMap Chunk.Finding.addresses ⊆
        matchAddresses pattern regions ∧
      (matchAddresses pattern regions).take settings.maxResults.toNat ⊆
        (findings settings pattern regions countAll).flatMap Chunk.Finding.addresses := by
  have kept (found : List Chunk) (limit : Nat)
      (among : ∀ chunk ∈ found, chunk ∈ chunks settings pattern regions) :
      (found.flatMap fun chunk => (chunk.matchAddresses pattern).take limit) ⊆
        matchAddresses pattern regions := by
    intro address member
    obtain ⟨chunk, chunkMem, matched⟩ := List.mem_flatMap.1 member
    exact (exists_chunk_iff settings).1 ⟨chunk, among chunk chunkMem, List.mem_of_mem_take matched⟩
  simp only [findings]
  split
  · rename_i inOrder
    simp only [Bool.and_eq_true] at inOrder
    have separate := inOrder.1.1
    obtain ⟨searched, unsearched, split, found, complete⟩ :=
      Chunk.searchUntil_spec pattern settings.maxResults.toNat settings.maxResults.toNat
        (chunks settings pattern regions)
    rw [if_pos separate, found]
    refine ⟨kept searched _ fun chunk member => ?_, ?_⟩
    · rw [split]
      exact List.mem_append_left _ member
    · rcases complete with all | enough
      · have everything := lowest_subset_of_all settings pattern regions
          (Nat.le_refl settings.maxResults.toNat)
        rwa [split, all, List.append_nil] at everything
      · exact lowest_subset_of_enough separate split enough
  · rw [flatMap_addresses_search]
    refine ⟨kept _ _ fun chunk member => member, lowest_subset_of_all settings pattern regions ?_⟩
    split
    · exact Nat.le_refl _
    · have := settings.maxResults.toNat_lt
      unfold addressLimit
      omega

theorem addresses_run (countAll : Bool) :
    (run settings pattern regions countAll).value.addresses =
      (matchAddresses pattern regions).take settings.maxResults.toNat := by
  rw [value_run]
  obtain ⟨inside, lowest⟩ := flatMap_addresses_findings settings pattern regions countAll
  exact addresses_merge (pairwise_lt_matchAddresses pattern regions) inside lowest

theorem scan_eq_take (settings : Settings) (pattern : Pattern) (regions : List Region) :
    scan settings pattern regions =
      (matchAddresses pattern regions).take settings.maxResults.toNat := by
  unfold scan scanLogged
  split
  · rename_i zero
    rw [zero]
    rfl
  · rw [Logged.value_bind, Logged.value_pure, addresses_run]

theorem merge_eq_of_perm {limit : Nat} {disjoint : Bool} {found reordered : List Chunk.Finding}
    (perm : found.Perm reordered) :
    merge limit disjoint found = merge limit disjoint reordered := by
  have sorted : (found.flatMap Chunk.Finding.addresses).mergeSort (· ≤ ·) =
      (reordered.flatMap Chunk.Finding.addresses).mergeSort (· ≤ ·) := by
    apply List.Perm.eq_of_pairwise' (List.pairwise_mergeSort' (· ≤ ·) _)
      (List.pairwise_mergeSort' (· ≤ ·) _)
    exact ((List.mergeSort_perm _ _).trans (perm.flatMap_right _)).trans
      (List.mergeSort_perm _ _).symm
  have counted : (found.map Chunk.Finding.seen).foldr (· + ·) 0 =
      (reordered.map Chunk.Finding.seen).foldr (· + ·) 0 :=
    (perm.map _).sum_nat
  simp only [merge, sorted, counted]

/-- For all settings, patterns and regions a scan lists the first of all addresses at which the
pattern occurs, in ascending order and each once. The order in which the findings of the chunks
are put together has no influence. -/
theorem scan_lists_lowest_match_addresses (settings : Settings) (pattern : Pattern)
    (regions : List Region) :
    (matchAddresses pattern regions).Pairwise (· < ·) ∧
    (∀ address, address ∈ matchAddresses pattern regions ↔
      ∃ region ∈ regions, ∃ offset, pattern.matchesAt region.bytes offset = true ∧
        region.base.toNat + offset = address.toNat) ∧
    scan settings pattern regions =
      (matchAddresses pattern regions).take settings.maxResults.toNat ∧
    ∀ (limit : Nat) (disjoint : Bool) (found reordered : List Chunk.Finding),
      found.Perm reordered → merge limit disjoint found = merge limit disjoint reordered :=
  ⟨pairwise_lt_matchAddresses pattern regions, fun _ => mem_matchAddresses_iff,
    scan_eq_take settings pattern regions, fun _ _ _ _ => merge_eq_of_perm⟩

end RegionScan

end BytePattern
