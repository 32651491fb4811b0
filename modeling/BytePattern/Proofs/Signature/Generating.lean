import BytePattern.Proofs.Region.Holding
import Mathlib.Tactic.IntervalCases

/-!
# The shortest unique pattern

A run of bytes at an address is unique if it occurs at no other address of the regions. A longer
run occurs at fewer addresses, so among the runs at one address those from some length on are
unique, or none is. Generating tries the lengths in ascending order and asks a scan for two
matches; it finds the shortest run that is unique, and gives up only if the longest run that is
allowed occurs elsewhere too.
-/

namespace BytePattern

namespace Pattern

variable {pattern : Pattern} {run : List UInt8}

/-- A pattern without wildcards occurs where its bytes stand. -/
theorem occursAt_fixed_iff (fixed : pattern.tokens = run.map .fixed) {data : Bytes}
    {offset : Nat} : pattern.OccursAt data offset ↔ run <+: data.toList.drop offset := by
  have isByte (index : Nat) : (data.toList.drop offset)[index]? = data[offset + index]? := by
    rw [List.getElem?_drop, Array.getElem?_toList]
  rw [List.prefix_iff_getElem?, OccursAt, span, fixed, List.length_map]
  simp only [isByte, List.getElem?_map, Option.map_eq_some_iff]
  constructor
  · rintro ⟨fits, admitted⟩ index inside
    have present : data[offset + index]? = some data[offset + index] :=
      Array.getElem?_eq_getElem (by omega)
    have same := admitted index _ _ ⟨run[index], List.getElem?_eq_getElem inside, rfl⟩ present
    rw [present, (Token.fixed_admits_iff _ _).1 same]
  · intro same
    constructor
    · by_contra beyond
      have last := same (run.length - 1) (by
        have := pattern.span_pos
        rw [span, fixed, List.length_map] at this
        omega)
      have inside := (Array.getElem?_eq_some_iff.1 last).1
      omega
    · rintro index token byte ⟨expected, isExpected, rfl⟩ present
      obtain ⟨inside, rfl⟩ := List.getElem?_eq_some_iff.1 isExpected
      rw [same index inside, Option.some.injEq] at present
      exact (Token.fixed_admits_iff _ _).2 present

end Pattern

namespace Generation

variable {settings : Settings} {regions : List Region} {address : UInt64}
  {run available : List UInt8}

/-- Whether a run of bytes occurs at no other address than the given one. -/
def UniqueAt (regions : List Region) (address : UInt64) (run : List UInt8) : Prop :=
  ∀ region ∈ regions, ∀ (offset : Nat) (other : UInt64),
    run <+: region.bytes.toList.drop offset →
      region.base.toNat + offset = other.toNat → other = address

theorem UniqueAt.extend {longer : List UInt8} (unique : UniqueAt regions address run)
    (shorter : run <+: longer) : UniqueAt regions address longer := by
  intro region member offset other occurs isAddress
  exact unique region member offset other (shorter.trans occurs) isAddress

theorem uniqueAt_iff {pattern : Pattern} (fixed : pattern.tokens = run.map .fixed) :
    UniqueAt regions address run ↔
      ∀ other ∈ RegionScan.matchAddresses pattern regions, other = address := by
  simp only [UniqueAt, RegionScan.mem_matchAddresses_iff, Pattern.matchesAt_iff_occursAt,
    Pattern.occursAt_fixed_iff fixed]
  constructor
  · rintro unique other ⟨region, member, offset, occurs, isAddress⟩
    exact unique region member offset other occurs isAddress
  · intro only region member offset other occurs isAddress
    exact only other ⟨region, member, offset, occurs, isAddress⟩

/-- Whether the bytes stand at the address in some region. -/
def StandsAt (regions : List Region) (address : UInt64) (run : List UInt8) : Prop :=
  ∃ region ∈ regions, ∃ offset, run <+: region.bytes.toList.drop offset ∧
    region.base.toNat + offset = address.toNat

/-- Two matches at most are enough to know whether there is only one. -/
theorem scan_eq_singleton_iff {pattern : Pattern} (fixed : pattern.tokens = run.map .fixed)
    (stands : StandsAt regions address run) :
    (RegionScan.scanLogged { settings with maxResults := 2 } pattern regions).value =
        [address] ↔
      UniqueAt regions address run := by
  have ascending := RegionScan.pairwise_lt_matchAddresses pattern regions
  have matched : address ∈ RegionScan.matchAddresses pattern regions := by
    obtain ⟨region, member, offset, occurs, isAddress⟩ := stands
    refine RegionScan.mem_matchAddresses_iff.2 ⟨region, member, offset, ?_, isAddress⟩
    rwa [Pattern.matchesAt_iff_occursAt, Pattern.occursAt_fixed_iff fixed]
  rw [← RegionScan.scan, RegionScan.scan_eq_take, uniqueAt_iff fixed]
  show (RegionScan.matchAddresses pattern regions).take 2 = [address] ↔ _
  generalize RegionScan.matchAddresses pattern regions = addresses at ascending matched
  match addresses with
  | [] => simp at matched
  | [only] => simp
  | first :: second :: rest =>
      have differs : first ≠ second :=
        UInt64.ne_of_lt ((List.pairwise_cons.1 ascending).1 second List.mem_cons_self)
      simp only [List.take_succ_cons, List.take_zero, List.cons.injEq, reduceCtorEq, and_false,
        false_iff]
      intro same
      exact differs ((same first (by simp)).trans (same second (by simp)).symm)

theorem StandsAt.shorten {longer : List UInt8} (stands : StandsAt regions address longer)
    (shorter : run <+: longer) : StandsAt regions address run := by
  obtain ⟨region, member, offset, occurs, isAddress⟩ := stands
  exact ⟨region, member, offset, shorter.trans occurs, isAddress⟩

theorem scan_take_eq_singleton_iff (settings : Settings) (nonempty : available ≠ [])
    (stands : StandsAt regions address available) {length : Nat} (positive : 0 < length) :
    ∃ pattern, Pattern.ofTokens ((available.take length).map .fixed) = .ok pattern ∧
      pattern.tokens = (available.take length).map .fixed ∧
      ((RegionScan.scanLogged { settings with maxResults := 2 } pattern regions).value =
          [address] ↔
        UniqueAt regions address (available.take length)) := by
  have shortened : available.take length ≠ [] := by
    simpa [Nat.ne_of_gt positive] using nonempty
  obtain ⟨pattern, built, fixed⟩ := Pattern.exists_ofTokens (mt List.map_eq_nil_iff.1 shortened)
  exact ⟨pattern, built, fixed,
    scan_eq_singleton_iff fixed (stands.shorten (List.take_prefix _ _))⟩

theorem value_tryLength_of_uniqueAt (settings : Settings) (nonempty : available ≠ [])
    (stands : StandsAt regions address available) {length : Nat} (positive : 0 < length)
    (unique : UniqueAt regions address (available.take length)) :
    ∃ pattern, pattern.tokens = (available.take length).map .fixed ∧
      (tryLength { settings with maxResults := 2 } regions address available length).value =
        .settled (.ok pattern) := by
  obtain ⟨pattern, built, fixed, found⟩ :=
    scan_take_eq_singleton_iff settings nonempty stands positive
  refine ⟨pattern, fixed, ?_⟩
  simp only [tryLength, built, Logged.value_bind, found.2 unique, if_true, Logged.value_pure]

theorem value_tryLength_of_not_uniqueAt (settings : Settings) (nonempty : available ≠ [])
    (stands : StandsAt regions address available) {length : Nat} (positive : 0 < length)
    (repeated : ¬ UniqueAt regions address (available.take length)) :
    (tryLength { settings with maxResults := 2 } regions address available length).value =
      .repeated := by
  obtain ⟨pattern, built, -, found⟩ :=
    scan_take_eq_singleton_iff settings nonempty stands positive
  simp only [tryLength, built, Logged.value_bind, if_neg (mt found.1 repeated),
    Logged.value_pure]

/-- Lengths whose runs occur elsewhere are passed over. -/
theorem value_tryLengths_append (settings : Settings) (nonempty : available ≠ [])
    (stands : StandsAt regions address available) (limit : Nat) {before : List Nat}
    (after : List Nat) (positive : ∀ length ∈ before, 0 < length)
    (repeated : ∀ length ∈ before, ¬ UniqueAt regions address (available.take length)) :
    (tryLengths { settings with maxResults := 2 } regions address available limit
        (before ++ after)).value =
      (tryLengths { settings with maxResults := 2 } regions address available limit
        after).value := by
  induction before with
  | nil => rfl
  | cons length rest ih =>
      have tried := value_tryLength_of_not_uniqueAt settings nonempty stands
        (positive length List.mem_cons_self) (repeated length List.mem_cons_self)
      rw [List.cons_append, tryLengths, Logged.value_bind, tried]
      exact ih (fun other member => positive other (List.mem_cons_of_mem _ member))
        (fun other member => repeated other (List.mem_cons_of_mem _ member))

/-- The least length from which on the runs at the address are unique. -/
theorem exists_least_uniqueAt {least limit : Nat} (ordered : least ≤ limit)
    (unique : UniqueAt regions address (available.take limit)) :
    ∃ length, least ≤ length ∧ length ≤ limit ∧ ∀ other, least ≤ other →
      (UniqueAt regions address (available.take other) ↔ length ≤ other) := by
  classical
  have found : ∃ length, least ≤ length ∧ UniqueAt regions address (available.take length) :=
    ⟨limit, ordered, unique⟩
  refine ⟨Nat.find found, (Nat.find_spec found).1, Nat.find_min' found ⟨ordered, unique⟩, ?_⟩
  intro other above
  constructor
  · intro here
    exact Nat.find_min' found ⟨above, here⟩
  · intro longer
    exact (Nat.find_spec found).2.extend (List.take_prefix_take_left longer)

/-- Trying all lengths up to the whole run gives the shortest part that is unique. -/
theorem value_tryLengths_of_uniqueAt (settings : Settings) (stands : StandsAt regions address run)
    {least : Nat} (positive : 0 < least) (ordered : least ≤ run.length)
    (unique : UniqueAt regions address run) :
    ∃ length, least ≤ length ∧ length ≤ run.length ∧
      (∀ other, least ≤ other → (UniqueAt regions address (run.take other) ↔ length ≤ other)) ∧
      ∃ pattern, pattern.tokens = (run.take length).map .fixed ∧
        (tryLengths { settings with maxResults := 2 } regions address run run.length
          (List.range' least (run.length + 1 - least))).value = .ok pattern := by
  have nonempty : run ≠ [] := List.length_pos_iff.1 (by omega)
  obtain ⟨length, above, below, uniqueFrom⟩ :=
    exists_least_uniqueAt ordered (List.take_length (l := run) ▸ unique)
  have split : List.range' least (run.length + 1 - least) =
      List.range' least (length - least) ++
        length :: List.range' (length + 1) (run.length - length) := by
    have count : run.length + 1 - least = (length - least) + (run.length - length + 1) := by omega
    rw [count, ← List.range'_append_1, Nat.add_sub_cancel' above, List.range'_succ]
  obtain ⟨pattern, fixed, tried⟩ := value_tryLength_of_uniqueAt settings nonempty stands
    (Nat.lt_of_lt_of_le positive above) ((uniqueFrom length above).2 (Nat.le_refl length))
  refine ⟨length, above, below, uniqueFrom, pattern, fixed, ?_⟩
  rw [split, value_tryLengths_append settings nonempty stands, tryLengths, Logged.value_bind,
    tried, Logged.value_pure]
  · intro other member
    have := (List.mem_range'_1.1 member).1
    omega
  · intro other member
    have between := List.mem_range'_1.1 member
    rw [uniqueFrom other between.1]
    omega

theorem value_tryLengths_of_not_uniqueAt (settings : Settings)
    (stands : StandsAt regions address run) {least : Nat} (positive : 0 < least)
    (ordered : least ≤ run.length) (repeated : ¬ UniqueAt regions address run) :
    (tryLengths { settings with maxResults := 2 } regions address run run.length
      (List.range' least (run.length + 1 - least))).value =
        .error (.patternTooLong run.length) := by
  have nonempty : run ≠ [] := List.length_pos_iff.1 (by omega)
  rw [← List.append_nil (List.range' _ _), value_tryLengths_append settings nonempty stands]
  · rw [tryLengths, Logged.value_bind, Logged.value_pure]
  · intro other member
    have := (List.mem_range'_1.1 member).1
    omega
  · intro other _ unique
    exact repeated (unique.extend (List.take_prefix _ _))

/-- The longest run of bytes from an address on that may become a pattern. At least one byte is
always allowed. -/
def longestRun (maximumLength : Nat) (region : Region) (address : UInt64) : List UInt8 :=
  (region.bytes.toList.drop (address.toNat - region.base.toNat)).take (max maximumLength 1)

variable {region : Region}

theorem length_longestRun (maximumLength : Nat) (region : Region) (address : UInt64) :
    (longestRun maximumLength region address).length =
      min (max maximumLength 1) (region.size - (address.toNat - region.base.toNat)) := by
  rw [longestRun, List.length_take, List.length_drop, Array.length_toList, Region.size]

theorem standsAt_longestRun (maximumLength : Nat) (member : region ∈ regions)
    (holds : region.Holds address) :
    StandsAt regions address (longestRun maximumLength region address) :=
  ⟨region, member, address.toNat - region.base.toNat, List.take_prefix _ _,
    Nat.add_sub_cancel' holds.1⟩

theorem generate_of_find? (settings : Settings) (maximumLength : Nat)
    (found : regions.find? (fun region => region.contains address) = some region) :
    generate settings maximumLength regions address =
      (tryLengths { settings with maxResults := 2 } regions address
        (longestRun maximumLength region address) (longestRun maximumLength region address).length
        (List.range' (min 5 (longestRun maximumLength region address).length)
          ((longestRun maximumLength region address).length + 1 -
            min 5 (longestRun maximumLength region address).length))).value := by
  have available : (region.bytes.extract (address.toNat - region.base.toNat)
      (address.toNat - region.base.toNat + max maximumLength 1)).toList =
        longestRun maximumLength region address := by
    rw [Array.toList_extract, List.extract_eq_take_drop, Nat.add_sub_cancel_left, longestRun]
  simp only [generate, generateLogged, found, available, minimumLength]

/-- Generating takes bytes from the first region that contains the address. Of the lengths from
five on, or that of the longest run if it is less, it chooses the least whose bytes occur at no
other address; those of every greater length do not either. It answers that the pattern would be
too long exactly if even the longest run occurs elsewhere, and never that a pattern is empty.
Without a region that contains the address, the address is unknown. -/
theorem generate_finds_shortest_unique_run (settings : Settings) (maximumLength : Nat)
    (regions : List Region) (address : UInt64) :
    match regions.find? fun region => region.contains address with
    | none => generate settings maximumLength regions address = .error (.unknownAddress address)
    | some region =>
      let offset := address.toNat - region.base.toNat
      let run := longestRun maximumLength region address
      (region.base.toNat ≤ address.toNat ∧ offset < region.size ∧
        run.length = min (max maximumLength 1) (region.size - offset) ∧ 1 ≤ run.length) ∧
      ((∃ pattern, generate settings maximumLength regions address = .ok pattern) ↔
        UniqueAt regions address run) ∧
      (∀ pattern, generate settings maximumLength regions address = .ok pattern →
        ∃ length, min 5 run.length ≤ length ∧ length ≤ run.length ∧
          pattern.tokens = (run.take length).map .fixed ∧
          ∀ other, min 5 run.length ≤ other → other ≤ run.length →
            (UniqueAt regions address (run.take other) ↔ length ≤ other)) ∧
      (¬ UniqueAt regions address run →
        generate settings maximumLength regions address = .error (.patternTooLong run.length)) ∧
      ∀ reason, generate settings maximumLength regions address ≠
        .error (.invalidPattern reason) := by
  cases found : regions.find? fun region => region.contains address with
  | none => simp only [generate, generateLogged, found, Logged.value_pure]
  | some region =>
      have holds : region.Holds address :=
        Region.holds_of_contains (by simpa using List.find?_some found)
      have runLength := length_longestRun maximumLength region address
      have stands := standsAt_longestRun maximumLength (List.mem_of_find?_eq_some found) holds
      obtain ⟨notBefore, before⟩ := holds
      simp only [generate_of_find? settings maximumLength found]
      generalize longestRun maximumLength region address = run at runLength stands
      have nonempty : 1 ≤ run.length := by omega
      refine ⟨⟨notBefore, by omega, runLength, nonempty⟩, ?_⟩
      by_cases unique : UniqueAt regions address run
      · obtain ⟨length, above, below, uniqueFrom, pattern, fixed, generated⟩ :=
          value_tryLengths_of_uniqueAt settings stands (by omega) (Nat.min_le_right 5 _) unique
        rw [generated]
        refine ⟨iff_of_true ⟨pattern, rfl⟩ unique, ?_, fun repeated => absurd unique repeated,
          fun reason => by simp⟩
        rintro _ ⟨⟩
        exact ⟨length, above, below, fixed, fun other inRange _ => uniqueFrom other inRange⟩
      · rw [value_tryLengths_of_not_uniqueAt settings stands (by omega) (Nat.min_le_right 5 _)
          unique]
        refine ⟨iff_of_false (by simp) unique, by simp, fun _ => rfl, by simp⟩

/-- Of four bytes, the last two stand nowhere else and the whole rest of the region becomes the
pattern. If only one byte is allowed, it stands elsewhere too. -/
theorem generate_short_tail :
    ∃ regions : List Region, regions = [⟨"", 0, #[0x90, 0x90, 0x90, 0xC3]⟩] ∧
      UniqueAt regions 2 [0x90, 0xC3] ∧ ¬ UniqueAt regions 2 [0x90] ∧
      (∃ pattern, generate {} defaultMaximumLength regions 2 = .ok pattern ∧
        pattern.tokens = [.fixed 0x90, .fixed 0xC3]) ∧
      generate {} 0 regions 2 = .error (.patternTooLong 1) := by
  refine ⟨_, rfl, ?_⟩
  have unique : UniqueAt [⟨"", 0, #[0x90, 0x90, 0x90, 0xC3]⟩] 2 [0x90, 0xC3] := by
    intro region member offset other occurs isAddress
    cases List.mem_singleton.1 member
    have fits : 2 ≤ 4 - offset := by simpa using occurs.length_le
    have inside : offset < 3 := by omega
    interval_cases offset
    · exact absurd occurs (by decide)
    · exact absurd occurs (by decide)
    · exact UInt64.toNat_inj.1 isAddress.symm
  have repeated : ¬ UniqueAt [⟨"", 0, #[0x90, 0x90, 0x90, 0xC3]⟩] 2 [0x90] := by
    intro unique
    exact absurd (unique _ (List.mem_singleton.2 rfl) 0 0 (by decide) rfl) (by decide)
  refine ⟨unique, repeated, ?_, ?_⟩
  · obtain ⟨-, found, shortest, -⟩ := generate_finds_shortest_unique_run {} defaultMaximumLength
      [⟨"", 0, #[0x90, 0x90, 0x90, 0xC3]⟩] 2
    obtain ⟨pattern, generated⟩ := found.2 unique
    obtain ⟨length, above, below, fixed, -⟩ := shortest pattern generated
    have whole : length = 2 := Nat.le_antisymm below above
    exact ⟨pattern, generated, by rw [fixed, whole]; rfl⟩
  · obtain ⟨-, -, -, tooLong, -⟩ := generate_finds_shortest_unique_run {} 0
      [⟨"", 0, #[0x90, 0x90, 0x90, 0xC3]⟩] 2
    exact tooLong repeated

end Generation

end BytePattern
