import BytePattern.Proofs.Region.Holding
import BytePattern.Proofs.Signature.Resolving
import Mathlib.Data.List.Find
import Mathlib.Data.List.Pairwise

/-!
# The order of the regions

A load reads from the first region that holds all its bytes, and a pattern is generated from the
first region that contains the address. Where no two regions share an address there is at most one
such region, so the first one is the same in every order. A scan lists the same addresses in every
order anyway. Hence resolving and generating do not depend on the order in which the regions are
given.
-/

namespace BytePattern

namespace Region

/-- Whether no address is held by both regions. -/
def Apart (first second : Region) : Prop :=
  ∀ address, first.Holds address → ¬ second.Holds address

instance : Std.Symm Apart where
  symm _ _ apart address secondHolds firstHolds := apart address firstHolds secondHolds

/-- Two regions that share addresses share the higher one of their bases. -/
theorem apart_iff {first second : Region} :
    first.Apart second ↔
      first.size = 0 ∨ second.size = 0 ∨ first.base.toNat + first.size ≤ second.base.toNat ∨
        second.base.toNat + second.size ≤ first.base.toNat := by
  constructor
  · intro apart
    by_contra overlapping
    rcases Nat.le_total first.base.toNat second.base.toNat with below | above
    · exact apart second.base ⟨below, by omega⟩ ⟨Nat.le_refl _, by omega⟩
    · exact apart first.base ⟨Nat.le_refl _, by omega⟩ ⟨above, by omega⟩
  · rintro separate address ⟨firstBelow, firstAbove⟩ ⟨secondBelow, secondAbove⟩
    omega

instance : DecidableRel Apart :=
  fun _ _ => decidable_of_iff' _ apart_iff

/-- Whatever is read at an address begins with the byte that the region holds there. -/
theorem holds_of_readNumber? {region : Region} {address value : UInt64} {size : Nat}
    (read : region.readNumber? address size = some value) : region.Holds address := by
  unfold readNumber? at read
  split at read
  · cases read
  · rename_i sized
    split at read
    · cases read
    · rename_i notBefore
      rw [UInt64.not_lt, UInt64.le_iff_toNat_le] at notBefore
      simp only at read
      split at read
      · rename_i inside
        exact ⟨notBefore, by omega⟩
      · cases read

section Reordered

variable {regions reordered : List Region} (perm : reordered.Perm regions)
  (apart : regions.Pairwise Apart)

include apart in
theorem eq_of_holds {first second : Region} {address : UInt64} (firstMem : first ∈ regions)
    (secondMem : second ∈ regions) (firstHolds : first.Holds address)
    (secondHolds : second.Holds address) : first = second := by
  by_contra differs
  exact apart.forall firstMem secondMem differs address firstHolds secondHolds

include perm apart in
/-- A search that only regions holding one address can satisfy finds the same in any order. -/
theorem find?_of_perm {test : Region → Bool} {address : UInt64}
    (holding : ∀ region : Region, test region = true → region.Holds address) :
    reordered.find? test = regions.find? test := by
  refine (List.find?_eq_find?_of_perm perm.symm ?_).symm
  rintro first ⟨firstMem, firstPassed⟩ second ⟨secondMem, secondPassed⟩
  exact eq_of_holds apart firstMem secondMem (holding first firstPassed)
    (holding second secondPassed)

/-- The first answer is that of the first region that has one. -/
theorem findSome?_eq_bind_find? {α : Type} (answer : Region → Option α) (regions : List Region) :
    regions.findSome? answer =
      (regions.find? fun region => (answer region).isSome).bind answer := by
  induction regions with
  | nil => rfl
  | cons region rest ih =>
      cases answered : answer region with
      | none => simp [answered, ih]
      | some value => simp [answered]

include perm apart in
theorem findSome?_readNumber?_of_perm (address : UInt64) (size : Nat) :
    (reordered.findSome? fun region => region.readNumber? address size) =
      regions.findSome? fun region => region.readNumber? address size := by
  rw [findSome?_eq_bind_find?, findSome?_eq_bind_find?, find?_of_perm perm apart]
  intro region readable
  obtain ⟨value, read⟩ := Option.isSome_iff_exists.1 readable
  exact holds_of_readNumber? read

end Reordered

end Region

namespace RegionScan

variable {regions reordered : List Region}

theorem matchAddresses_of_perm (pattern : Pattern) (perm : reordered.Perm regions) :
    matchAddresses pattern reordered = matchAddresses pattern regions := by
  apply eq_matchAddresses (pairwise_lt_matchAddresses pattern reordered)
  intro address
  simp only [mem_matchAddresses_iff_exists_region, perm.mem_iff]

theorem scan_of_perm (settings : Settings) (pattern : Pattern) (perm : reordered.Perm regions) :
    scan settings pattern reordered = scan settings pattern regions := by
  rw [scan_eq_take, scan_eq_take, matchAddresses_of_perm pattern perm]

end RegionScan

variable {regions reordered : List Region} (perm : reordered.Perm regions)
  (apart : regions.Pairwise Region.Apart)

namespace Expression

include perm apart in
theorem Load.apply_of_perm (load : Load) (address : UInt64) :
    load.apply reordered address = load.apply regions address := by
  unfold Load.apply
  rw [Region.findSome?_readNumber?_of_perm perm apart]

include perm apart in
/-- However deep loads are nested, each reads the same number, or none, in any order. -/
theorem Term.evaluate_of_perm (here : UInt64) (term : Term) :
    term.evaluate here reordered = term.evaluate here regions := by
  induction term with
  | number value => rfl
  | here => rfl
  | binary operator left right leftIH rightIH =>
      rw [Term.evaluate, Term.evaluate, leftIH, rightIH]
  | load access address ih =>
      rw [Term.evaluate, Term.evaluate, ih]
      cases address.evaluate here regions with
      | error fault => rfl
      | ok value => exact Load.apply_of_perm perm apart access value

end Expression

namespace Signature

include perm apart in
theorem resolve_of_perm (settings : Settings) (signature : Signature) :
    signature.resolve settings reordered = signature.resolve settings regions := by
  cases compiled : Pattern.compile signature.pattern with
  | error fault => rw [resolve_of_refused compiled, resolve_of_refused compiled]
  | ok pattern =>
      rw [resolve_eq_select_scan compiled, resolve_eq_select_scan compiled]
      simp only [RegionScan.scan_of_perm _ _ perm, Expression.evaluate,
        Expression.Term.evaluate_of_perm perm apart]

end Signature

namespace Generation

include perm in
theorem value_tryLength_of_perm (settings : Settings) (address : UInt64)
    (available : List UInt8) (length : Nat) :
    (tryLength settings reordered address available length).value =
      (tryLength settings regions address available length).value := by
  have scanned (pattern : Pattern) :
      (RegionScan.scanLogged settings pattern reordered).value =
        (RegionScan.scanLogged settings pattern regions).value :=
    RegionScan.scan_of_perm settings pattern perm
  unfold tryLength
  split
  · rfl
  · rw [Logged.value_bind, Logged.value_bind, scanned]

include perm in
theorem value_tryLengths_of_perm (settings : Settings) (address : UInt64)
    (available : List UInt8) (limit : Nat) (lengths : List Nat) :
    (tryLengths settings reordered address available limit lengths).value =
      (tryLengths settings regions address available limit lengths).value := by
  induction lengths with
  | nil => rfl
  | cons length rest ih =>
      rw [tryLengths, tryLengths, Logged.value_bind, Logged.value_bind,
        value_tryLength_of_perm perm]
      split
      · rfl
      · exact ih

include perm apart in
theorem generate_of_perm (settings : Settings) (maximumLength : Nat) (address : UInt64) :
    generate settings maximumLength reordered address =
      generate settings maximumLength regions address := by
  unfold generate generateLogged
  rw [Region.find?_of_perm perm apart fun region => Region.holds_of_contains]
  split
  · rfl
  · exact value_tryLengths_of_perm perm _ _ _ _ _

end Generation

namespace Signature

/-- Regions of which no two share an address may be given in any order: every signature resolves to
the same outcome, whatever its expression loads, and every address gets the same pattern or the
same refusal. -/
theorem resolution_and_generation_ignore_order (regions reordered : List Region)
    (apart : regions.Pairwise Region.Apart) (perm : reordered.Perm regions) :
    (∀ (settings : Settings) (signature : Signature),
      signature.resolve settings reordered = signature.resolve settings regions) ∧
    ∀ (settings : Settings) (maximumLength : Nat) (address : UInt64),
      Generation.generate settings maximumLength reordered address =
        Generation.generate settings maximumLength regions address :=
  ⟨resolve_of_perm perm apart, Generation.generate_of_perm perm apart⟩

/-- The number at the match is the address of another region, which comes last in one order and
first in the other; the number found there is the outcome in both. -/
theorem resolve_of_nested_load_reordered :
    ∃ regions reordered : List Region,
      regions = [⟨"code", 0x1000, #[0, 0x20, 0, 0, 0, 0, 0, 0]⟩, ⟨"gap", 0x1001, #[]⟩,
        ⟨"table", 0x2000, #[0x34, 0x12, 0, 0, 0, 0, 0, 0]⟩] ∧
      reordered = [⟨"table", 0x2000, #[0x34, 0x12, 0, 0, 0, 0, 0, 0]⟩, ⟨"gap", 0x1001, #[]⟩,
        ⟨"code", 0x1000, #[0, 0x20, 0, 0, 0, 0, 0, 0]⟩] ∧
      regions.Pairwise Region.Apart ∧ reordered.Perm regions ∧
      resolve {} reordered { name := "pointer", pattern := "00 20", ops := some "[[$]]" } =
        .resolved 0x1234 := by
  refine ⟨_, _, rfl, rfl, by decide, by decide, ?_⟩
  rw [(resolution_and_generation_ignore_order [⟨"code", 0x1000, #[0, 0x20, 0, 0, 0, 0, 0, 0]⟩,
    ⟨"gap", 0x1001, #[]⟩, ⟨"table", 0x2000, #[0x34, 0x12, 0, 0, 0, 0, 0, 0]⟩] _ (by decide)
    (by decide)).1]
  have compiled : Pattern.compile "00 20" = .ok ⟨[.fixed 0, .fixed 0x20], some ⟨1, 0x20⟩,
      .ofTokens [.fixed 0, .fixed 0x20], by decide, rfl, rfl⟩ := by
    decide +kernel
  have read : Expression.read "[[$]]" = .ok ⟨"[[$]]", .load .plain (.load .plain .here)⟩ :=
    Expression.read_eq_ok_iff_standsFor.2
      ⟨by decide, ((Expression.standsFor_word .dollar).loaded .absent).loaded .absent⟩
  rw [resolve_eq_select_scan compiled, RegionScan.scan_eq_take,
    RegionScan.matchAddresses_eq_flatMap (by decide +kernel), readOps, read]
  decide +kernel

end Signature

end BytePattern
