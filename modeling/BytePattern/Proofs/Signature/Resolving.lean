import BytePattern.Proofs.Expression.Padding
import BytePattern.Proofs.Scan.Scanning
import BytePattern.Signature.Resolution

/-!
# The rules of resolution

A signature is refused for its pattern before it is refused for its expression. Otherwise every
match address has its say, or what the expression makes of it: agreeing values decide, and only
values that differ are counted and picked by the index. The rules know of no settings.
-/

namespace BytePattern

namespace Signature

/-- How the values of all matches decide on the outcome. -/
inductive Selects (signature : Signature) : List UInt64 → Resolution → Prop
  | notFound : Selects signature [] .notFound
  | agreed {values : List UInt64} {address : UInt64} (found : values ≠ [])
      (agree : ∀ value ∈ values, value = address) :
      Selects signature values (.resolved address)
  | countMismatch {values : List UInt64}
      (differ : ¬ ∃ address, ∀ value ∈ values, value = address)
      (miscounted : values.length ≠ signature.count.toNat) :
      Selects signature values (.countMismatch signature.count values.length)
  | indexed {values : List UInt64} {address : UInt64}
      (differ : ¬ ∃ address, ∀ value ∈ values, value = address)
      (counted : values.length = signature.count.toNat)
      (inside : values[signature.index.toNat]? = some address) :
      Selects signature values (.resolved address)
  | indexOutOfRange {values : List UInt64}
      (differ : ¬ ∃ address, ∀ value ∈ values, value = address)
      (counted : values.length = signature.count.toNat)
      (outside : values.length ≤ signature.index.toNat) :
      Selects signature values (.indexOutOfRange signature.index values.length)

/-- What becomes of a signature by the rules. -/
inductive ResolvesTo (regions : List Region) (signature : Signature) : Resolution → Prop
  | invalidPattern {fault : PatternError}
      (refused : Pattern.compile signature.pattern = .error fault) :
      ResolvesTo regions signature (.invalidPattern fault.message)
  | invalidOps {pattern : Pattern} {source : String} {fault : ExpressionError}
      (compiled : Pattern.compile signature.pattern = .ok pattern)
      (present : signature.ops = some source)
      (refused : Expression.read source = .error fault) :
      ResolvesTo regions signature (.invalidOps fault.message)
  | matched {pattern : Pattern} {outcome : Resolution}
      (compiled : Pattern.compile signature.pattern = .ok pattern)
      (absent : signature.ops = none)
      (selected : Selects signature (RegionScan.matchAddresses pattern regions) outcome) :
      ResolvesTo regions signature outcome
  | evaluated {pattern : Pattern} {source : String} {ops : Expression} {outcome : Resolution}
      (compiled : Pattern.compile signature.pattern = .ok pattern)
      (present : signature.ops = some source)
      (read : Expression.read source = .ok ops)
      (selected : Selects signature ((RegionScan.matchAddresses pattern regions).filterMap
        fun here => (ops.evaluate here regions).toOption) outcome) :
      ResolvesTo regions signature outcome

theorem value_evaluateMatches (name : String) (ops : Expression) (regions : List Region)
    (found : List UInt64) :
    (evaluateMatches name ops regions found).value =
      found.filterMap fun here => (ops.evaluate here regions).toOption := by
  induction found with
  | nil => rfl
  | cons here rest ih =>
      rw [evaluateMatches]
      cases evaluated : ops.evaluate here regions with
      | ok value =>
          simp only [Logged.value_bind, Logged.value_pure, ih, List.filterMap_cons, evaluated,
            Except.toOption]
      | error reason =>
          simp only [Logged.value_bind, ih, List.filterMap_cons, evaluated, Except.toOption]

theorem all_eq_head_iff {first : UInt64} {rest : List UInt64} :
    rest.all (· == first) = true ↔ ∃ address, ∀ value ∈ first :: rest, value = address := by
  rw [List.all_eq_true]
  constructor
  · intro same
    refine ⟨first, fun value member => ?_⟩
    rcases List.mem_cons.1 member with here | behind
    · exact here
    · exact beq_iff_eq.1 (same value behind)
  · rintro ⟨address, agree⟩ value member
    rw [beq_iff_eq, agree value (List.mem_cons_of_mem _ member), agree first List.mem_cons_self]

theorem selects_select (signature : Signature) (values : List UInt64) :
    Selects signature values (signature.select values) := by
  cases values with
  | nil => exact .notFound
  | cons first rest =>
      rw [select]
      split
      · rename_i same
        obtain ⟨address, agree⟩ := all_eq_head_iff.1 same
        have here := agree first List.mem_cons_self
        exact .agreed (List.cons_ne_nil _ _) (here ▸ agree)
      · rename_i differ
        rw [all_eq_head_iff] at differ
        simp only
        split
        · rename_i miscounted
          exact .countMismatch differ miscounted
        · rename_i counted
          have counted : (first :: rest).length = signature.count.toNat := not_not.1 counted
          split
          · rename_i address inside
            exact .indexed differ counted inside
          · rename_i outside
            exact .indexOutOfRange differ counted (List.getElem?_eq_none_iff.1 outside)

theorem select_of_agree {signature : Signature} {values : List UInt64} {address : UInt64}
    (found : values ≠ []) (agree : ∀ value ∈ values, value = address) :
    signature.select values = .resolved address := by
  cases values with
  | nil => exact absurd rfl found
  | cons first rest =>
      rw [select, if_pos (all_eq_head_iff.2 ⟨address, agree⟩), agree first List.mem_cons_self]

theorem select_of_differ {signature : Signature} {values : List UInt64}
    (differ : ¬ ∃ address, ∀ value ∈ values, value = address) :
    signature.select values =
      if values.length ≠ signature.count.toNat then
        .countMismatch signature.count values.length
      else
        match values[signature.index.toNat]? with
        | some address => .resolved address
        | none => .indexOutOfRange signature.index values.length := by
  cases values with
  | nil => exact absurd ⟨0, by simp⟩ differ
  | cons first rest =>
      rw [select, if_neg (mt all_eq_head_iff.1 differ)]
      rfl

theorem Selects.select_eq {signature : Signature} {values : List UInt64} {outcome : Resolution}
    (selected : Selects signature values outcome) : signature.select values = outcome := by
  cases selected with
  | notFound => rfl
  | agreed found agree => exact select_of_agree found agree
  | countMismatch differ miscounted => rw [select_of_differ differ, if_pos miscounted]
  | indexed differ counted inside =>
      rw [select_of_differ differ, if_neg (not_not.2 counted), inside]
  | indexOutOfRange differ counted outside =>
      rw [select_of_differ differ, if_neg (not_not.2 counted), List.getElem?_eq_none outside]

theorem selects_iff {signature : Signature} {values : List UInt64} {outcome : Resolution} :
    Selects signature values outcome ↔ signature.select values = outcome := by
  constructor
  · exact Selects.select_eq
  · rintro rfl
    exact selects_select signature values

/-- Resolving scans with the highest limit there is and selects from the values at the matches. -/
theorem resolve_eq_select_scan {settings : Settings} {regions : List Region}
    {signature : Signature} {pattern : Pattern}
    (compiled : Pattern.compile signature.pattern = .ok pattern) :
    signature.resolve settings regions =
      let found := RegionScan.scan
        { settings with maxResults := UInt64.ofNat (addressLimit - 1) } pattern regions
      match readOps signature.ops with
      | .error fault => .invalidOps fault.message
      | .ok none => signature.select found
      | .ok (some ops) => signature.select (found.filterMap
          fun here => (ops.evaluate here regions).toOption) := by
  simp only [resolve, resolveLogged, Logged.value_bind, Pattern.value_compileLogged, compiled]
  cases opsRead : readOps signature.ops with
  | error fault => rfl
  | ok parsed =>
      cases parsed with
      | none => rfl
      | some ops =>
          simp only [Logged.value_bind, Logged.value_pure, value_evaluateMatches]
          rfl

/-- Matches that can be counted in 64 bits are all selected from. -/
theorem resolve_of_compiled {settings : Settings} {regions : List Region} {signature : Signature}
    {pattern : Pattern} (compiled : Pattern.compile signature.pattern = .ok pattern)
    (fits : (RegionScan.matchAddresses pattern regions).length < addressLimit) :
    signature.resolve settings regions =
      match readOps signature.ops with
      | .error fault => .invalidOps fault.message
      | .ok none => signature.select (RegionScan.matchAddresses pattern regions)
      | .ok (some ops) => signature.select ((RegionScan.matchAddresses pattern regions).filterMap
          fun here => (ops.evaluate here regions).toOption) := by
  have everything : RegionScan.scan
      { settings with maxResults := UInt64.ofNat (addressLimit - 1) } pattern regions =
        RegionScan.matchAddresses pattern regions := by
    rw [RegionScan.scan_eq_take, List.take_of_length_le]
    show _ ≤ addressLimit - 1
    omega
  rw [resolve_eq_select_scan compiled, everything]

theorem resolve_of_refused {settings : Settings} {regions : List Region} {signature : Signature}
    {fault : PatternError} (refused : Pattern.compile signature.pattern = .error fault) :
    signature.resolve settings regions = .invalidPattern fault.message := by
  simp only [resolve, resolveLogged, Logged.value_bind, Pattern.value_compileLogged, refused,
    Logged.value_pure]

theorem resolvesTo_resolve {settings : Settings} {regions : List Region} {signature : Signature}
    (fits : ∀ pattern, Pattern.compile signature.pattern = .ok pattern →
      (RegionScan.matchAddresses pattern regions).length < addressLimit) :
    ResolvesTo regions signature (signature.resolve settings regions) := by
  cases compiled : Pattern.compile signature.pattern with
  | error fault =>
      rw [resolve_of_refused compiled]
      exact .invalidPattern compiled
  | ok pattern =>
      rw [resolve_of_compiled compiled (fits pattern compiled)]
      cases ops : signature.ops with
      | none => exact .matched compiled ops (selects_select signature _)
      | some source =>
          cases read : Expression.read source with
          | error fault =>
              simp only [readOps, read, Except.map]
              exact .invalidOps compiled ops read
          | ok expression =>
              simp only [readOps, read, Except.map]
              exact .evaluated compiled ops read (selects_select signature _)

theorem ResolvesTo.resolve_eq {settings : Settings} {regions : List Region}
    {signature : Signature} {outcome : Resolution}
    (fits : ∀ pattern, Pattern.compile signature.pattern = .ok pattern →
      (RegionScan.matchAddresses pattern regions).length < addressLimit)
    (resolves : ResolvesTo regions signature outcome) :
    signature.resolve settings regions = outcome := by
  cases resolves with
  | invalidPattern refused => exact resolve_of_refused refused
  | invalidOps compiled present refused =>
      rw [resolve_of_compiled compiled (fits _ compiled)]
      simp only [present, readOps, refused, Except.map]
  | matched compiled absent selected =>
      rw [resolve_of_compiled compiled (fits _ compiled)]
      simp only [absent, readOps]
      exact selected.select_eq
  | evaluated compiled present read selected =>
      rw [resolve_of_compiled compiled (fits _ compiled)]
      simp only [present, readOps, read, Except.map]
      exact selected.select_eq

/-- Resolving a signature gives the outcome that the rules demand and no other, whatever the
settings, provided that the matches can be counted in 64 bits. -/
theorem resolve_eq_iff_resolvesTo (settings : Settings) (regions : List Region)
    (signature : Signature) (outcome : Resolution)
    (fits : ∀ pattern, Pattern.compile signature.pattern = .ok pattern →
      (RegionScan.matchAddresses pattern regions).length < addressLimit) :
    signature.resolve settings regions = outcome ↔ ResolvesTo regions signature outcome := by
  constructor
  · rintro rfl
    exact resolvesTo_resolve fits
  · exact ResolvesTo.resolve_eq fits

/-- The second match has no eight bytes to load and is dropped, so the number at the first match
is the address although seven matches were expected. -/
theorem resolve_of_agreeing_load :
    (∀ pattern, Pattern.compile "E8" = .ok pattern →
      (RegionScan.matchAddresses pattern
        [⟨"", 0x1000, #[0xE8, 1, 0, 0, 0, 0, 0, 0, 0xE8]⟩]).length < addressLimit) ∧
    resolve { maxResults := 1, chunkSize := 1 }
      [⟨"", 0x1000, #[0xE8, 1, 0, 0, 0, 0, 0, 0, 0xE8]⟩]
      { name := "load", pattern := "E8", count := 7, ops := some "[$]" } = .resolved 0x1E8 := by
  have fits (pattern : Pattern) : (RegionScan.matchAddresses pattern
      [⟨"", 0x1000, #[0xE8, 1, 0, 0, 0, 0, 0, 0, 0xE8]⟩]).length < addressLimit :=
    Nat.lt_of_le_of_lt (RegionScan.length_matchAddresses_le pattern _) (by decide)
  refine ⟨fun pattern _ => fits pattern, ?_⟩
  apply (resolve_eq_iff_resolvesTo _ _ _ _ fun pattern _ => fits pattern).2
  have compiled : Pattern.compile "E8" =
      .ok ⟨[.fixed 0xE8], some ⟨0, 0xE8⟩, .ofTokens [.fixed 0xE8], by decide, rfl, rfl⟩ := by
    decide +kernel
  have read : Expression.read "[$]" = .ok ⟨"[$]", .load .plain .here⟩ :=
    Expression.read_eq_ok_iff_standsFor.2
      ⟨by decide, (Expression.standsFor_word .dollar).loaded .absent⟩
  refine .evaluated compiled rfl read ?_
  rw [RegionScan.matchAddresses_eq_flatMap (by decide +kernel), selects_iff]
  decide +kernel

end Signature

end BytePattern
