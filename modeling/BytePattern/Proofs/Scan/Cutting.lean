import BytePattern.Proofs.Scan.Scanning

/-!
# Cutting regions in words

The chunks of a region are cut off one after another by a loop whose offsets are 64-bit words. As
long as the sizes of regions and patterns are less than 2^63 every sum of the loop is the sum of the
numbers, every piece that is cut off lies inside of the region, and the loop ends with the chunks of
the region, which cover it without a gap or an overlap. A chunk decides the matches that start in
its own bytes; regions that are not cut at all hold no match; and the chunks of disjoint regions own
their matches in the order of the addresses.
-/

namespace BytePattern

/-! ## The loop -/

/-- The sum of two words, or the last word if the sum is past it. -/
def saturatingAdd (first second : UInt64) : UInt64 :=
  UInt64.ofNat (min (first.toNat + second.toNat) (addressLimit - 1))

theorem toNat_saturatingAdd (first second : UInt64) :
    (saturatingAdd first second).toNat =
      min (first.toNat + second.toNat) (addressLimit - 1) := by
  rw [saturatingAdd, UInt64.toNat_ofNat_of_lt']
  exact Nat.lt_of_le_of_lt (Nat.min_le_right _ _) (by decide)

/-- What one pass of the loop cuts off a region: where it starts, how many bytes are its own, and
where its bytes end. -/
structure Cut where
  start : UInt64
  owned : UInt64
  stop : UInt64
deriving DecidableEq, Repr

namespace Cut

/-- The offset of the next pass. -/
def following (cut : Cut) : UInt64 :=
  cut.start + cut.owned

/-- One pass of the loop, for a region of some size. A chunk size of zero counts as one. -/
def pass (size chunkSize overlap start : UInt64) : Cut :=
  let owned := min (max chunkSize 1) (size - start)
  { start := start
    owned := owned
    stop := min (saturatingAdd (start + owned) overlap) size }

section Pass

variable {size chunkSize overlap start : UInt64}

@[simp] theorem start_pass : (pass size chunkSize overlap start).start = start := rfl

theorem stop_pass : (pass size chunkSize overlap start).stop =
    min (saturatingAdd (pass size chunkSize overlap start).following overlap) size := rfl

theorem toNat_owned_pass (before : start < size) :
    (pass size chunkSize overlap start).owned.toNat =
      min (max chunkSize.toNat 1) (size.toNat - start.toNat) := by
  have left := UInt64.toNat_sub_of_le size start (UInt64.le_of_lt before)
  have step : (max chunkSize 1).toNat = max chunkSize.toNat 1 := UInt64.toNat_max chunkSize 1
  rw [pass, UInt64.toNat_min, left, step]

theorem toNat_following_pass (before : start < size) :
    (pass size chunkSize overlap start).following.toNat =
      start.toNat + (pass size chunkSize overlap start).owned.toNat := by
  have owned : (pass size chunkSize overlap start).owned.toNat = _ := toNat_owned_pass before
  have inside := UInt64.lt_iff_toNat_lt.1 before
  have bounded := size.toNat_lt
  rw [following, UInt64.toNat_add, start_pass, Nat.mod_eq_of_lt (by omega)]

end Pass

/-- The passes of the loop from an offset on. -/
def passesFrom (size chunkSize overlap start : UInt64) : List Cut :=
  if _ : start < size then
    let cut := pass size chunkSize overlap start
    cut :: passesFrom size chunkSize overlap cut.following
  else []
termination_by size.toNat - start.toNat
decreasing_by
  have before : start < size := ‹_›
  have inside := UInt64.lt_iff_toNat_lt.1 before
  rw [toNat_following_pass before, toNat_owned_pass before]
  omega

/-- The chunk that a pass of the loop leaves behind. -/
def chunkOf (region : Region) (cut : Cut) : Chunk where
  base := region.base
  start := cut.start.toNat
  owned := cut.owned.toNat
  bytes := region.bytes.extract cut.start.toNat cut.stop.toNat

/-- A pass that starts inside of a region of some size. Its sums of words are the sums of the
numbers, none of which is past the last word, and its bytes are a slice of the region. -/
structure IsExact (size overlap : Nat) (cut : Cut) : Prop where
  start_lt : cut.start.toNat < size
  toNat_following : cut.following.toNat = cut.start.toNat + cut.owned.toNat
  following_le : cut.following.toNat ≤ size
  reach_lt : cut.following.toNat + overlap < addressLimit
  toNat_stop : cut.stop.toNat = min (cut.following.toNat + overlap) size
  start_le_stop : cut.start ≤ cut.stop

section Passes

variable {size chunkSize overlap start : UInt64}

theorem isExact_pass (small : size.toNat + overlap.toNat < addressLimit) (before : start < size) :
    (pass size chunkSize overlap start).IsExact size.toNat overlap.toNat := by
  have inside := UInt64.lt_iff_toNat_lt.1 before
  have owned : (pass size chunkSize overlap start).owned.toNat = _ := toNat_owned_pass before
  have next : (pass size chunkSize overlap start).following.toNat = _ :=
    toNat_following_pass before
  have stop : (pass size chunkSize overlap start).stop.toNat =
      min ((pass size chunkSize overlap start).following.toNat + overlap.toNat) size.toNat := by
    rw [stop_pass, UInt64.toNat_min, toNat_saturatingAdd]
    omega
  refine ⟨inside, next, ?_, ?_, stop, ?_⟩
  · omega
  · omega
  · rw [UInt64.le_iff_toNat_le, stop, next]
    simp only [start_pass]
    omega

theorem isExact_of_mem_passesFrom (small : size.toNat + overlap.toNat < addressLimit) :
    ∀ cut ∈ passesFrom size chunkSize overlap start, cut.IsExact size.toNat overlap.toNat := by
  fun_induction passesFrom size chunkSize overlap start with
  | case1 start before cut ih => exact List.forall_mem_cons.2 ⟨isExact_pass small before, ih⟩
  | case2 start beyond => exact List.forall_mem_nil _

end Passes

end Cut

/-- Chunks that follow one another up to an offset, none of them without bytes of its own. -/
inductive Chunk.Tile (stop : Nat) : Nat → List Chunk → Prop
  | nil : Tile stop stop []
  | cons {chunk : Chunk} {rest : List Chunk} (positive : 0 < chunk.owned)
      (others : Tile stop (chunk.start + chunk.owned) rest) : Tile stop chunk.start (chunk :: rest)

namespace Region

/-- The chunks that the loop leaves behind cover the region from its offset on. -/
theorem tile_map_passesFrom (region : Region) {size chunkSize overlap start : UInt64}
    (inside : start ≤ size) : Chunk.Tile size.toNat start.toNat
      ((Cut.passesFrom size chunkSize overlap start).map (Cut.chunkOf region)) := by
  fun_induction Cut.passesFrom size chunkSize overlap start with
  | case1 start before cut ih =>
      have inside := UInt64.lt_iff_toNat_lt.1 before
      have owned : cut.owned.toNat = _ := Cut.toNat_owned_pass before
      have next : cut.following.toNat = start.toNat + cut.owned.toNat :=
        Cut.toNat_following_pass before
      have positive : 0 < (Cut.chunkOf region cut).owned := by
        show 0 < cut.owned.toNat
        omega
      have following_le : cut.following ≤ size := by
        rw [UInt64.le_iff_toNat_le]
        omega
      rw [List.map_cons]
      refine .cons positive ?_
      show Chunk.Tile size.toNat (start.toNat + cut.owned.toNat) _
      rw [← next]
      exact ih following_le
  | case2 start beyond =>
      rw [UInt64.le_antisymm inside (UInt64.not_lt.1 beyond)]
      exact .nil

theorem extract_min_size (data : Bytes) (start stop : Nat) :
    data.extract start (min stop data.size) = data.extract start stop := by
  apply Array.ext
  · simp only [Array.size_extract]
    omega
  · intro index first second
    simp only [Array.getElem_extract]

theorem lt_chunkCount_iff {size step index : Nat} (positive : 0 < step) :
    index < (size + (step - 1)) / step ↔ index * step < size := by
  rw [Nat.lt_iff_add_one_le, Nat.le_div_iff_mul_le positive, Nat.succ_mul]
  omega

/-- A pass that starts where a chunk of the region starts leaves this chunk behind. -/
theorem chunkOf_pass (region : Region) {size chunkSize overlap start : UInt64} {span : Nat}
    (isSize : size.toNat = region.size) (isOverlap : overlap.toNat = span - 1)
    (small : size.toNat + overlap.toNat < addressLimit) (before : start < size) :
    Cut.chunkOf region (Cut.pass size chunkSize overlap start) =
      region.chunkAt (max chunkSize.toNat 1) span start.toNat := by
  let cut := Cut.pass size chunkSize overlap start
  have owned : cut.owned.toNat = min (max chunkSize.toNat 1) (region.size - start.toNat) :=
    isSize ▸ Cut.toNat_owned_pass before
  have isExact : cut.IsExact size.toNat overlap.toNat := Cut.isExact_pass small before
  rw [chunkAt, Cut.chunkOf, Chunk.mk.injEq]
  refine ⟨rfl, rfl, owned, ?_⟩
  rw [isExact.toNat_stop, isExact.toNat_following, owned, isSize, isOverlap]
  exact extract_min_size region.bytes _ _

/-- From the start of a chunk on, the loop leaves behind this chunk and all later ones. The
induction follows the passes; the last one may be shorter and ends at the end of the region. -/
theorem map_passesFrom (region : Region) {size chunkSize overlap start : UInt64} {span : Nat}
    (isSize : size.toNat = region.size) (isOverlap : overlap.toNat = span - 1)
    (small : size.toNat + overlap.toNat < addressLimit) {step : Nat}
    (isStep : step = max chunkSize.toNat 1) :
    ∀ index, start.toNat = min (index * step) region.size →
      (Cut.passesFrom size chunkSize overlap start).map (Cut.chunkOf region) =
        (List.range' index ((region.size + (step - 1)) / step - index)).map fun index =>
          region.chunkAt step span (index * step) := by
  have positive : 0 < step := by omega
  fun_induction Cut.passesFrom size chunkSize overlap start with
  | case1 start before cut ih =>
      intro index place
      have inside := UInt64.lt_iff_toNat_lt.1 before
      have atStart : start.toNat = index * step := by omega
      have counted : index < (region.size + (step - 1)) / step :=
        (lt_chunkCount_iff positive).2 (by omega)
      have next : cut.following.toNat = min ((index + 1) * step) region.size := by
        have owned : cut.owned.toNat = _ := Cut.toNat_owned_pass before
        have following : cut.following.toNat = start.toNat + cut.owned.toNat :=
          Cut.toNat_following_pass before
        rw [Nat.succ_mul]
        omega
      have later : (region.size + (step - 1)) / step - index =
          (region.size + (step - 1)) / step - (index + 1) + 1 := by
        omega
      rw [List.map_cons, ih _ next, later, List.range'_succ, List.map_cons,
        chunkOf_pass region isSize isOverlap small before, atStart, isStep]
  | case2 start beyond =>
      intro index place
      have outside := UInt64.le_iff_toNat_le.1 (UInt64.not_lt.1 beyond)
      have uncounted : ¬ index < (region.size + (step - 1)) / step := by
        rw [lt_chunkCount_iff positive]
        omega
      rw [Nat.sub_eq_zero_of_le (Nat.le_of_not_lt uncounted)]
      rfl

/-- All passes of the loop over a region, for patterns of some span. -/
def passes (region : Region) (chunkSize : UInt64) (span : Nat) : List Cut :=
  Cut.passesFrom (UInt64.ofNat region.size) chunkSize (UInt64.ofNat (span - 1)) 0

section Fitting

variable {region : Region} {chunkSize : UInt64} {span : Nat}

theorem toNat_ofNat_size (short : region.size < 2 ^ 63) :
    (UInt64.ofNat region.size).toNat = region.size :=
  UInt64.toNat_ofNat_of_lt' (Nat.lt_trans short (by decide))

theorem toNat_ofNat_overlap (spanned : span < 2 ^ 63) :
    (UInt64.ofNat (span - 1)).toNat = span - 1 :=
  UInt64.toNat_ofNat_of_lt'
    (Nat.lt_of_le_of_lt (Nat.sub_le span 1) (Nat.lt_trans spanned (by decide)))

/-- The size of a region and what a match may need behind it are together no more than a word. -/
theorem size_add_overlap_lt (short : region.size < 2 ^ 63) (spanned : span < 2 ^ 63) :
    (UInt64.ofNat region.size).toNat + (UInt64.ofNat (span - 1)).toNat < addressLimit := by
  rw [toNat_ofNat_size short, toNat_ofNat_overlap spanned]
  unfold addressLimit
  omega

theorem map_passes (short : region.size < 2 ^ 63) (spanned : span < 2 ^ 63) :
    (region.passes chunkSize span).map (Cut.chunkOf region) =
      region.chunks chunkSize.toNat span := by
  rw [passes, region.map_passesFrom (toNat_ofNat_size short) (toNat_ofNat_overlap spanned)
    (size_add_overlap_lt short spanned) rfl 0 (by simp), chunks, List.range_eq_range']
  rfl

theorem isExact_of_mem_passes (short : region.size < 2 ^ 63) (spanned : span < 2 ^ 63) :
    ∀ cut ∈ region.passes chunkSize span, cut.IsExact region.size (span - 1) := by
  have isExact : ∀ cut ∈ region.passes chunkSize span, cut.IsExact _ _ :=
    Cut.isExact_of_mem_passesFrom (size_add_overlap_lt short spanned)
  rwa [toNat_ofNat_size short, toNat_ofNat_overlap spanned] at isExact

theorem tile_chunks (short : region.size < 2 ^ 63) (spanned : span < 2 ^ 63) :
    Chunk.Tile region.size 0 (region.chunks chunkSize.toNat span) := by
  have tile : Chunk.Tile (UInt64.ofNat region.size).toNat (0 : UInt64).toNat
      ((region.passes chunkSize span).map (Cut.chunkOf region)) :=
    region.tile_map_passesFrom (UInt64.le_iff_toNat_le.2 (Nat.zero_le _))
  rwa [toNat_ofNat_size short, map_passes short spanned] at tile

/-- The bytes of a chunk end with the region, or where a match ends that starts in the last byte
that the chunk owns. -/
theorem bytes_of_mem_chunks (short : region.size < 2 ^ 63) (spanned : span < 2 ^ 63) :
    ∀ chunk ∈ region.chunks chunkSize.toNat span, chunk.bytes = region.bytes.extract chunk.start
      (min (chunk.start + chunk.owned + (span - 1)) region.size) := by
  rw [← map_passes short spanned, List.forall_mem_map]
  intro cut member
  have isExact := isExact_of_mem_passes short spanned cut member
  rw [Cut.chunkOf, isExact.toNat_stop, isExact.toNat_following]

end Fitting

end Region

namespace Chunk

/-- The chunk owns a match at this address. -/
def Owns (chunk : Chunk) (pattern : Pattern) (address : UInt64) : Prop :=
  ∃ offset < chunk.owned, pattern.matchesAt chunk.bytes offset = true ∧
    chunk.base.toNat + (chunk.start + offset) = address.toNat

theorem mem_matchAddresses_iff_owns {chunk : Chunk} {pattern : Pattern} {address : UInt64} :
    address ∈ chunk.matchAddresses pattern ↔ chunk.Owns pattern address := by
  have ordered := pattern.pairwise_lt_occurrences chunk.bytes
  rw [matchAddresses, ownAddresses,
    addressesOf_eq_filterMap (ordered.sublist (List.takeWhile_sublist _)),
    Ascending.takeWhile_lt_eq_filter ordered]
  simp only [List.mem_filterMap, List.mem_filter, Pattern.mem_occurrences_iff,
    decide_eq_true_eq, addressAt?_eq_some_iff, Owns, Pattern.matchesAt_iff_occursAt]
  constructor
  · rintro ⟨offset, ⟨occurs, owned⟩, equal⟩
    exact ⟨offset, owned, occurs, equal⟩
  · rintro ⟨offset, owned, occurs, equal⟩
    exact ⟨offset, ⟨occurs, owned⟩, equal⟩

end Chunk

namespace RegionScan

variable {settings : Settings} {pattern : Pattern} {regions : List Region}

theorem matchesAt_of_not_searched {region : Region} (member : region ∈ regions)
    (skipped : region ∉ searched settings pattern regions) (offset : Nat) :
    pattern.matchesAt region.bytes offset = false := by
  have sorted : region ∈ Region.sortByBase regions :=
    (Region.sortByBase_perm regions).mem_iff.2 member
  have short : region.size < pattern.span := by
    by_contra long
    exact skipped (List.mem_filter.2 ⟨sorted, by simp [long]⟩)
  rw [← Bool.not_eq_true, Pattern.matchesAt_iff_occursAt]
  intro occurs
  have fits := occurs.1
  unfold Region.size at short
  omega

/-- In disjoint regions the chunks own their matches in the order of the addresses. -/
theorem pairwise_owned_le (separate : Region.disjoint (Region.sortByBase regions) = true) :
    (chunks settings pattern regions).Pairwise fun earlier later =>
      ∀ low high, earlier.Owns pattern low → later.Owns pattern high → low ≤ high := by
  have ordered := Region.pairwise_matchAddresses_of_disjoint pattern separate
  rw [← flatMap_matchAddresses_chunks settings, List.pairwise_flatMap] at ordered
  refine ordered.2.imp fun precedes low high owned owned' => ?_
  exact (precedes low (Chunk.mem_matchAddresses_iff_owns.2 owned) high
    (Chunk.mem_matchAddresses_iff_owns.2 owned')).le

/-- Regions are cut exactly. The loop, which counts in words, ends with the chunks of the region;
none of its sums is past the last word and no slice leaves the region. The chunks cover the region
without a gap and without an overlap, and each sees the matches that start in its own bytes whole
if the region does. Regions that are left out have no match. The matches of disjoint regions ascend
from chunk to chunk, which is why a search in order may stop once it has found enough. -/
theorem chunks_cover_regions_in_address_order (settings : Settings) (pattern : Pattern)
    (regions : List Region)
    (short : ∀ region ∈ regions, region.size < 2 ^ 63) (spanned : pattern.span < 2 ^ 63) :
    (∀ region ∈ searched settings pattern regions,
      let passes := region.passes settings.chunkSize pattern.span
      let chunks := region.chunks settings.chunkSize.toNat pattern.span
      passes.map (Cut.chunkOf region) = chunks ∧
      (∀ cut ∈ passes, cut.IsExact region.size (pattern.span - 1)) ∧
      Chunk.Tile region.size 0 chunks ∧
      ∀ chunk ∈ chunks,
        chunk.bytes = region.bytes.extract chunk.start
          (min (chunk.start + chunk.owned + (pattern.span - 1)) region.size) ∧
        ∀ offset < chunk.owned, (chunk.start + offset + pattern.span ≤ region.size ↔
          offset + pattern.span ≤ chunk.bytes.size)) ∧
    (∀ region ∈ regions, region ∉ searched settings pattern regions →
      ∀ offset, pattern.matchesAt region.bytes offset = false) ∧
    (Region.disjoint (Region.sortByBase regions) = true →
      (chunks settings pattern regions).Pairwise fun earlier later =>
        ∀ low high, earlier.Owns pattern low → later.Owns pattern high → low ≤ high) := by
  refine ⟨fun region member => ?_, fun region => matchesAt_of_not_searched, pairwise_owned_le⟩
  have short : region.size < 2 ^ 63 :=
    short region ((Region.sortByBase_perm regions).mem_iff.1 (List.mem_of_mem_filter member))
  refine ⟨Region.map_passes short spanned, Region.isExact_of_mem_passes short spanned,
    Region.tile_chunks short spanned, fun chunk chunkMem => ?_⟩
  have bytes := Region.bytes_of_mem_chunks short spanned chunk chunkMem
  refine ⟨bytes, fun offset owned => ?_⟩
  have positive := pattern.span_pos
  rw [bytes, Array.size_extract]
  unfold Region.size
  omega

/-- A region of five bytes is cut into chunks of two, the last of which owns the fifth byte alone.
A region of one byte is too short for the pattern and left out. -/
theorem chunks_of_two_bytes :
    ∃ pattern, Pattern.ofTokens? [.fixed 0x90, .wildcard] = some pattern ∧
      ∃ (small large : Region) (settings : Settings),
        small = ⟨"", 0x1000, #[0x90]⟩ ∧ large = ⟨"", 0x2000, #[0x90, 0x90, 0x00, 0x90, 0x90]⟩ ∧
        settings = { chunkSize := 2 } ∧
        (∀ region ∈ [small, large], region.size < 2 ^ 63) ∧ pattern.span < 2 ^ 63 ∧
        searched settings pattern [small, large] = [large] ∧
        (large.passes settings.chunkSize pattern.span).map Cut.owned = [2, 2, 1] ∧
        Chunk.Tile 5 0 (large.chunks 2 pattern.span) ∧
        ∀ offset, pattern.matchesAt small.bytes offset = false := by
  obtain ⟨pattern, built⟩ : ∃ pattern, Pattern.ofTokens? [.fixed 0x90, .wildcard] = some pattern :=
    ⟨_, rfl⟩
  have span : pattern.span = 2 := by
    rw [Pattern.span, Pattern.tokens_of_ofTokens? built]
    rfl
  refine ⟨pattern, built, _, _, { chunkSize := 2 }, rfl, rfl, rfl, ?_⟩
  let small : Region := ⟨"", 0x1000, #[0x90]⟩
  let large : Region := ⟨"", 0x2000, #[0x90, 0x90, 0x00, 0x90, 0x90]⟩
  have short : ∀ region ∈ [small, large], region.size < 2 ^ 63 := by decide
  have spanned : pattern.span < 2 ^ 63 := by
    rw [span]
    decide
  have searches : searched { chunkSize := 2 } pattern [small, large] = [large] := by
    rw [searched, span, Region.sortByBase, List.mergeSort_of_pairwise (by decide)]
    decide
  have owned : (large.passes 2 2).map Cut.owned = [2, 2, 1] := by
    decide +kernel
  obtain ⟨cut, skipped, -⟩ :=
    chunks_cover_regions_in_address_order { chunkSize := 2 } pattern [small, large] short spanned
  rw [searches] at cut skipped
  refine ⟨short, spanned, searches, by rw [span]; exact owned, ?_, ?_⟩
  · exact (cut large List.mem_cons_self).2.2.1
  · exact skipped small List.mem_cons_self (by decide)

end RegionScan

end BytePattern
