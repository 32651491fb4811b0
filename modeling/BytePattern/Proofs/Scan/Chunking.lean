import BytePattern.RegionScan
import BytePattern.Proofs.Pattern.Searching
import BytePattern.Proofs.Scan.MatchAddress

/-!
# Matches by chunks

A chunk owns the matches that start in its own bytes. It sees enough bytes behind them to decide
each of these matches as the whole region would, so the chunks of a region own exactly the matches
of the region, in the same order, each of them once.
-/

namespace BytePattern

namespace Pattern

/-- A window that ends inside a slice of the data matches there as in the data. -/
theorem occursAt_extract_iff {pattern : Pattern} {data : Bytes} {start stop offset : Nat}
    (inside : start + offset + pattern.span ≤ stop) :
    pattern.OccursAt (data.extract start stop) offset ↔
      pattern.OccursAt data (start + offset) := by
  have positive := pattern.span_pos
  have sameByte (index : Nat) (fits : start + offset + pattern.span ≤ data.size)
      (within : index < pattern.span) :
      (data.extract start stop)[offset + index]? = data[start + offset + index]? := by
    rw [Array.getElem?_extract, if_pos (by omega), Nat.add_assoc]
  have within {index : Nat} {token : Token} (isToken : pattern.tokens[index]? = some token) :
      index < pattern.span := (List.getElem?_eq_some_iff.1 isToken).1
  simp only [OccursAt, Array.size_extract]
  constructor
  · rintro ⟨fits, admitted⟩
    have fits : start + offset + pattern.span ≤ data.size := by omega
    refine ⟨fits, fun index token byte isToken isByte => ?_⟩
    exact admitted index token byte isToken
      ((sameByte index fits (within isToken)).trans isByte)
  · rintro ⟨fits, admitted⟩
    refine ⟨by omega, fun index token byte isToken isByte => ?_⟩
    exact admitted index token byte isToken
      ((sameByte index fits (within isToken)).symm.trans isByte)

def occurrencesBetween (pattern : Pattern) (data : Bytes) (start stop : Nat) : List Nat :=
  (pattern.occurrences data).filter fun offset => start ≤ offset ∧ offset < stop

theorem mem_occurrencesBetween_iff {pattern : Pattern} {data : Bytes} {start stop offset : Nat} :
    offset ∈ pattern.occurrencesBetween data start stop ↔
      pattern.OccursAt data offset ∧ start ≤ offset ∧ offset < stop := by
  simp [occurrencesBetween, mem_occurrences_iff]

theorem pairwise_lt_occurrencesBetween (pattern : Pattern) (data : Bytes) (start stop : Nat) :
    (pattern.occurrencesBetween data start stop).Pairwise (· < ·) :=
  (pattern.pairwise_lt_occurrences data).filter _

theorem length_occurrencesBetween_le (pattern : Pattern) (data : Bytes) (start width : Nat) :
    (pattern.occurrencesBetween data start (start + width)).length ≤ width := by
  have among : pattern.occurrencesBetween data start (start + width) ⊆
      List.range' start width := by
    intro offset member
    exact List.mem_range'_1.2 (mem_occurrencesBetween_iff.1 member).2
  simpa using (List.subperm_of_subset
    (pattern.pairwise_lt_occurrencesBetween data start _).nodup among).length_le

theorem occurrencesBetween_append (pattern : Pattern) (data : Bytes) {start middle stop : Nat}
    (below : start ≤ middle) (above : middle ≤ stop) :
    pattern.occurrencesBetween data start middle ++ pattern.occurrencesBetween data middle stop =
      pattern.occurrencesBetween data start stop := by
  have ascending : (pattern.occurrencesBetween data start middle ++
      pattern.occurrencesBetween data middle stop).Pairwise (· < ·) := by
    refine List.pairwise_append.2 ⟨pairwise_lt_occurrencesBetween _ _ _ _,
      pairwise_lt_occurrencesBetween _ _ _ _, ?_⟩
    intro near nearMem far farMem
    exact Nat.lt_of_lt_of_le (mem_occurrencesBetween_iff.1 nearMem).2.2
      (mem_occurrencesBetween_iff.1 farMem).2.1
  apply ascending.eq_of_mem_iff (pairwise_lt_occurrencesBetween _ _ _ _)
  intro offset
  simp only [List.mem_append, mem_occurrencesBetween_iff]
  constructor
  · rintro (⟨occurs, _, _⟩ | ⟨occurs, _, _⟩)
    · exact ⟨occurs, by omega, by omega⟩
    · exact ⟨occurs, by omega, by omega⟩
  · rintro ⟨occurs, after, before⟩
    rcases Nat.lt_or_ge offset middle with lower | upper
    · exact Or.inl ⟨occurs, after, lower⟩
    · exact Or.inr ⟨occurs, upper, before⟩

/-- Steps of one width from the first offset on cover a prefix of the data. -/
theorem flatMap_occurrencesBetween (pattern : Pattern) (data : Bytes) (step count : Nat) :
    ((List.range count).flatMap fun index =>
        pattern.occurrencesBetween data (index * step) (index * step + step)) =
      pattern.occurrencesBetween data 0 (count * step) := by
  induction count with
  | zero => simp [occurrencesBetween]
  | succ count ih =>
      rw [List.range_succ, List.flatMap_append, ih, List.flatMap_singleton, Nat.succ_mul]
      exact pattern.occurrencesBetween_append data (Nat.zero_le _) (Nat.le_add_right _ _)

theorem occurrencesBetween_zero {pattern : Pattern} {data : Bytes} {stop : Nat}
    (whole : data.size ≤ stop) :
    pattern.occurrencesBetween data 0 stop = pattern.occurrences data := by
  rw [occurrencesBetween, List.filter_eq_self]
  intro offset member
  have fits := (mem_occurrences_iff.1 member).1
  have := pattern.span_pos
  simp only [Nat.zero_le, true_and, decide_eq_true_eq]
  omega

/-- The end of the data ends the occurrences. -/
theorem occurrencesBetween_min (pattern : Pattern) (data : Bytes) (start step : Nat) :
    pattern.occurrencesBetween data start (start + min step (data.size - start)) =
      pattern.occurrencesBetween data start (start + step) := by
  apply (pairwise_lt_occurrencesBetween _ _ _ _).eq_of_mem_iff
    (pairwise_lt_occurrencesBetween _ _ _ _)
  intro offset
  have positive := pattern.span_pos
  simp only [mem_occurrencesBetween_iff]
  constructor
  · rintro ⟨occurs, after, before⟩
    exact ⟨occurs, after, by omega⟩
  · rintro ⟨occurs, after, before⟩
    have fits := occurs.1
    exact ⟨occurs, after, by omega⟩

/-- The leading occurrences in a slice are the occurrences there in the data, if the slice goes on
behind them for as long as one of them may reach. -/
theorem map_takeWhile_occurrences_extract (pattern : Pattern) (data : Bytes) (start owned : Nat) :
    ((pattern.occurrences (data.extract start (start + owned + (pattern.span - 1)))).takeWhile
        fun offset => offset < owned).map (start + ·) =
      pattern.occurrencesBetween data start (start + owned) := by
  have positive := pattern.span_pos
  have ordered := pattern.pairwise_lt_occurrences
    (data.extract start (start + owned + (pattern.span - 1)))
  rw [Ascending.takeWhile_lt_eq_filter ordered]
  have ascending := List.pairwise_map.2 <|
    (ordered.filter (fun offset => offset < owned)).imp fun lt => Nat.add_lt_add_left lt start
  apply ascending.eq_of_mem_iff (pattern.pairwise_lt_occurrencesBetween _ _ _)
  intro position
  simp only [List.mem_map, List.mem_filter, mem_occurrences_iff, mem_occurrencesBetween_iff,
    decide_eq_true_eq]
  constructor
  · rintro ⟨offset, ⟨occurs, inOwned⟩, rfl⟩
    have occursThere := (occursAt_extract_iff (by omega)).1 occurs
    exact ⟨occursThere, by omega, by omega⟩
  · rintro ⟨occurs, after, before⟩
    have there : start + (position - start) = position := by omega
    refine ⟨position - start, ⟨?_, by omega⟩, there⟩
    rw [occursAt_extract_iff (by omega), there]
    exact occurs

end Pattern

namespace Chunk

/-- The offsets that become addresses, as long as every address exists. -/
def addressesOf (base : UInt64) (start : Nat) : List Nat → List UInt64
  | [] => []
  | offset :: rest =>
    match addressAt? base (start + offset) with
    | some address => address :: addressesOf base start rest
    | none => []

/-- Once an address is past the last one, all later addresses are. -/
theorem addressesOf_eq_filterMap {base : UInt64} {start : Nat} {offsets : List Nat}
    (ascending : offsets.Pairwise (· < ·)) :
    addressesOf base start offsets =
      offsets.filterMap fun offset => addressAt? base (start + offset) := by
  induction offsets with
  | nil => rfl
  | cons offset rest ih =>
      obtain ⟨lowest, later⟩ := List.pairwise_cons.1 ascending
      rw [addressesOf]
      split
      · rename_i address found
        simp only [List.filterMap_cons, found, ih later]
      · rename_i found
        simp only [List.filterMap_cons, found]
        symm
        rw [List.filterMap_eq_nil_iff]
        intro other member
        have behind := lowest other member
        rw [addressAt?_eq_none_iff] at found ⊢
        omega

/-- The addresses of those of some matches that the chunk owns. -/
def ownAddresses (chunk : Chunk) (offsets : List Nat) : List UInt64 :=
  addressesOf chunk.base chunk.start (offsets.takeWhile fun offset => offset < chunk.owned)

/-- The addresses of all matches that the chunk owns. -/
def matchAddresses (chunk : Chunk) (pattern : Pattern) : List UInt64 :=
  chunk.ownAddresses (pattern.occurrences chunk.bytes)

theorem ownAddresses_nil (chunk : Chunk) : chunk.ownAddresses [] = [] := rfl

theorem ownAddresses_cons (chunk : Chunk) (offset : Nat) (rest : List Nat) :
    chunk.ownAddresses (offset :: rest) =
      match chunk.ownAddress? offset with
      | some address => address :: chunk.ownAddresses rest
      | none => [] := by
  rw [ownAddresses, ownAddress?, List.takeWhile_cons]
  by_cases own : offset < chunk.owned
  · rw [if_pos (decide_eq_true own), if_pos own, addressesOf]
    rfl
  · rw [if_neg (by simpa using own), if_neg own]
    rfl

/-- What the search of a chunk comes to: the addresses found are followed by the next own ones up
to the limit, and the search has seen these or, without a stop, all that are to come. -/
theorem searchOnto_eq (chunk : Chunk) {pattern : Pattern} (limit : Nat) (stopAtLimit : Bool)
    (found : Array UInt64) (seen : Nat) {more : Nat} {search : Search pattern chunk.bytes}
    (enough : search.pending.length ≤ more) :
    let own := chunk.ownAddresses search.pending
    chunk.searchOnto limit stopAtLimit found seen more search =
      { addresses := found.toList ++ own.take (limit - found.size)
        seen := seen + if stopAtLimit then (own.take (limit - found.size)).length
          else own.length } := by
  intro own
  induction more generalizing found seen search with
  | zero =>
      have nothing : search.pending = [] := List.length_eq_zero_iff.1 (Nat.le_zero.1 enough)
      simp [own, nothing, ownAddresses_nil, searchOnto]
  | succ more ih =>
      rw [searchOnto]
      split
      · rename_i following step
        simp [own, Search.pending_of_next_eq_none step, ownAddresses_nil]
      · rename_i offset following step
        have split := Search.pending_of_next_eq_some step
        have fewer : following.pending.length ≤ more := by
          rw [split, List.length_cons] at enough
          omega
        have cons : own = match chunk.ownAddress? offset with
            | some address => address :: chunk.ownAddresses following.pending
            | none => [] := by
          rw [← ownAddresses_cons, ← split]
        cases isOwn : chunk.ownAddress? offset with
        | none => simp [cons, isOwn]
        | some address =>
            simp only [isOwn] at cons
            by_cases room : found.size < limit
            · have one : limit - found.size = limit - (found.push address).size + 1 := by
                rw [Array.size_push]
                omega
              simp only [if_pos room]
              rw [ih _ _ fewer, cons, one, List.take_succ_cons, Array.toList_push]
              cases stopAtLimit <;> simp <;> omega
            · have full : limit - found.size = 0 := by omega
              simp only [if_neg room]
              cases stopAtLimit with
              | true => simp [cons, full]
              | false =>
                  rw [if_neg Bool.false_ne_true, ih _ _ fewer, cons, full]
                  simp
                  omega

/-- A search lists the lowest owned matches; it counts all of them unless it stops at the limit. -/
theorem search_eq (chunk : Chunk) (pattern : Pattern) (limit : Nat) (stopAtLimit : Bool) :
    chunk.search pattern limit stopAtLimit =
      { addresses := (chunk.matchAddresses pattern).take limit
        seen := if stopAtLimit then ((chunk.matchAddresses pattern).take limit).length
          else (chunk.matchAddresses pattern).length } := by
  have searched := chunk.searchOnto_eq limit stopAtLimit #[] 0
    (Search.start pattern chunk.bytes).length_pending_le
  simpa only [search, matchAddresses, Search.pending_start, List.nil_append, Array.size_empty,
    Nat.sub_zero, Nat.zero_add] using searched

end Chunk

namespace Region

/-- A chunk decides the matches in its own bytes as the region does. -/
theorem matchAddresses_chunkAt (region : Region) (pattern : Pattern) (step start : Nat) :
    (region.chunkAt step pattern.span start).matchAddresses pattern =
      (pattern.occurrencesBetween region.bytes start (start + step)).filterMap
        (addressAt? region.base) := by
  let owned := min step (region.size - start)
  let slice := region.bytes.extract start (start + owned + (pattern.span - 1))
  have ownedBytes : pattern.occurrencesBetween region.bytes start (start + owned) =
      pattern.occurrencesBetween region.bytes start (start + step) :=
    pattern.occurrencesBetween_min region.bytes start step
  rw [← ownedBytes, ← Pattern.map_takeWhile_occurrences_extract, List.filterMap_map,
    Chunk.matchAddresses, Chunk.ownAddresses, Chunk.addressesOf_eq_filterMap]
  · rfl
  · exact (pattern.pairwise_lt_occurrences slice).sublist (List.takeWhile_sublist _)

theorem length_matchAddresses_chunkAt_le (region : Region) (pattern : Pattern)
    (step start : Nat) :
    ((region.chunkAt step pattern.span start).matchAddresses pattern).length ≤ step := by
  rw [matchAddresses_chunkAt]
  exact Nat.le_trans (List.length_filterMap_le _ _)
    (pattern.length_occurrencesBetween_le region.bytes start step)

/-- The chunks of a region own its matches, in order and each once. -/
theorem flatMap_matchAddresses_chunks (region : Region) (pattern : Pattern) (chunkSize : Nat) :
    ((region.chunks chunkSize pattern.span).flatMap fun chunk => chunk.matchAddresses pattern) =
      region.matchAddresses pattern := by
  let step := max chunkSize 1
  let count := (region.size + (step - 1)) / step
  have covered : region.bytes.size ≤ count * step := by
    have positive : 0 < step := by omega
    have division := Nat.div_add_mod (region.size + (step - 1)) step
    have remainder := Nat.mod_lt (region.size + (step - 1)) positive
    have product : count * step = step * ((region.size + (step - 1)) / step) := Nat.mul_comm _ _
    have : region.bytes.size = region.size := rfl
    omega
  calc ((region.chunks chunkSize pattern.span).flatMap fun chunk => chunk.matchAddresses pattern)
      = (List.range count).flatMap fun index =>
          (region.chunkAt step pattern.span (index * step)).matchAddresses pattern :=
        List.flatMap_map _ _ _
    _ = (List.range count).flatMap fun index =>
          (pattern.occurrencesBetween region.bytes (index * step)
            (index * step + step)).filterMap (addressAt? region.base) := by
        simp only [matchAddresses_chunkAt]
    _ = ((List.range count).flatMap fun index => pattern.occurrencesBetween region.bytes
          (index * step) (index * step + step)).filterMap (addressAt? region.base) :=
        List.filterMap_flatMap.symm
    _ = region.matchAddresses pattern := by
        rw [Pattern.flatMap_occurrencesBetween, Pattern.occurrencesBetween_zero covered,
          matchAddresses]

end Region

end BytePattern
