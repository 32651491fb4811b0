import BytePattern.Proofs.Pattern.Canonical
import BytePattern.Proofs.Scan.Total
import BytePattern.Proofs.Signature.Generating
import BytePattern.Proofs.Signature.Resolving

/-!
# Generated patterns as signatures

A pattern is generated only after a scan has found it at its address and nowhere else. So its
text, handed back, compiles to the same pattern, every scan of the same regions finds the address
alone and counts it once, even if several regions hold it, and a signature with this text resolves
to it.
-/

namespace BytePattern

namespace Generation

variable {settings : Settings} {maximumLength : Nat} {regions : List Region} {address : UInt64}
  {available : List UInt8} {pattern : Pattern}

/-- A pattern is only settled on when a scan has found the address and nothing else. -/
theorem scan_of_tryLength {length : Nat}
    (settled : (tryLength settings regions address available length).value =
      .settled (.ok pattern)) :
    RegionScan.scan settings pattern regions = [address] := by
  unfold tryLength at settled
  split at settled
  · cases settled
  · rw [Logged.value_bind] at settled
    split at settled
    · rename_i only
      cases settled
      exact only
    · cases settled

theorem scan_of_tryLengths {limit : Nat} {lengths : List Nat}
    (generated : (tryLengths settings regions address available limit lengths).value =
      .ok pattern) :
    RegionScan.scan settings pattern regions = [address] := by
  induction lengths with
  | nil => cases generated
  | cons length rest ih =>
      rw [tryLengths, Logged.value_bind] at generated
      split at generated
      · rename_i result settled
        rw [Logged.value_pure] at generated
        exact scan_of_tryLength (generated ▸ settled)
      · exact ih generated

/-- The address is the only match address, and it is not the last one. -/
theorem matchAddresses_of_generate
    (generated : generate settings maximumLength regions address = .ok pattern) :
    RegionScan.matchAddresses pattern regions = [address] ∧ address ≠ lastAddress := by
  cases found : regions.find? fun region => region.contains address with
  | none =>
      simp only [generate, generateLogged, found, Logged.value_pure] at generated
      cases generated
  | some region =>
      have contained : region.contains address = true := by simpa using List.find?_some found
      rw [generate_of_find? settings maximumLength found] at generated
      have listed : (RegionScan.matchAddresses pattern regions).take 2 = [address] :=
        (RegionScan.scan_eq_take _ pattern regions).symm.trans (scan_of_tryLengths generated)
      have single : min 2 (RegionScan.matchAddresses pattern regions).length = 1 := by
        rw [← List.length_take, listed, List.length_singleton]
      rw [List.take_of_length_le (by omega)] at listed
      exact ⟨listed, (Region.contains_iff.1 contained).2⟩

end Generation

namespace RegionScan

variable {settings : Settings} {pattern : Pattern} {regions : List Region} {address : UInt64}

theorem scanWithTotal_of_single (only : matchAddresses pattern regions = [address])
    (notLast : address ≠ lastAddress) (wanted : 1 ≤ settings.maxResults.toNat) :
    scanWithTotal settings pattern regions = ⟨[address], 1⟩ := by
  have absent : lastAddress ∉ matchAddresses pattern regions := by
    rw [only, List.mem_singleton]
    exact notLast.symm
  have listed := addresses_scanWithTotal settings pattern regions
  have counted := total_scanWithTotal settings pattern regions
  rw [only, List.take_of_length_le wanted] at listed
  rw [recounted_eq_zero_of_not_mem absent, only] at counted
  cases scanned : scanWithTotal settings pattern regions with
  | mk addresses total =>
      rw [scanned] at listed counted
      rw [Outcome.mk.injEq]
      exact ⟨listed, counted⟩

end RegionScan

namespace Signature

variable {settings : Settings} {pattern : Pattern} {regions : List Region} {address : UInt64}
  {signature : Signature}

theorem resolve_of_single (compiled : Pattern.compile signature.pattern = .ok pattern)
    (plain : signature.ops = none)
    (only : RegionScan.matchAddresses pattern regions = [address]) :
    signature.resolve settings regions = .resolved address := by
  have fits : (RegionScan.matchAddresses pattern regions).length < addressLimit := by
    rw [only, List.length_singleton]
    decide
  rw [resolve_of_compiled compiled fits, plain, only]
  exact select_of_agree (List.cons_ne_nil _ _) (by simp)

end Signature

namespace Generation

/-- The text of a generated pattern is a signature of the address. It compiles to the pattern, a
scan lists the address alone and counts one match, and resolving gives the address, whatever
settings the pattern was generated with, and whatever count and index the signature has. -/
theorem generated_text_is_signature (settings : Settings) (maximumLength : Nat)
    (regions : List Region) (address : UInt64) (pattern : Pattern)
    (generated : generate settings maximumLength regions address = .ok pattern) :
    Pattern.compile pattern.text = .ok pattern ∧
    (∀ scanned : Settings, 1 ≤ scanned.maxResults →
      RegionScan.scanWithTotal scanned pattern regions = ⟨[address], 1⟩) ∧
    ∀ (resolved : Settings) (signature : Signature), signature.pattern = pattern.text →
      signature.ops = none → signature.resolve resolved regions = .resolved address := by
  obtain ⟨only, notLast⟩ := matchAddresses_of_generate generated
  refine ⟨pattern.compile_text, fun scanned wanted => ?_, fun resolved signature same plain => ?_⟩
  · exact RegionScan.scanWithTotal_of_single only notLast (UInt64.le_iff_toNat_le.1 wanted)
  · exact Signature.resolve_of_single (same ▸ pattern.compile_text) plain only

/-- Two regions hold the address and the byte behind it; the pattern of the two bytes leads back to
it. -/
theorem generated_text_of_shared_address :
    ∃ (regions : List Region) (pattern : Pattern),
      regions = [⟨"", 0x1000, #[1, 2, 3, 4]⟩, ⟨"", 0x1002, #[3, 4, 5]⟩] ∧
      generate {} 2 regions 0x1002 = .ok pattern ∧
      Pattern.compile pattern.text = .ok pattern ∧
      RegionScan.scanWithTotal { maxResults := 1, chunkSize := 1 } pattern regions =
        ⟨[0x1002], 1⟩ ∧
      ({ name := "shared", pattern := pattern.text, count := 7, index := 3 } : Signature).resolve
        {} regions = .resolved 0x1002 := by
  have unique : UniqueAt [⟨"", 0x1000, #[1, 2, 3, 4]⟩, ⟨"", 0x1002, #[3, 4, 5]⟩] 0x1002 [3, 4] := by
    intro region member offset other occurs isAddress
    rw [List.mem_cons, List.mem_singleton] at member
    rcases member with rfl | rfl
    · have fits : 2 ≤ 4 - offset := by simpa using occurs.length_le
      have inside : offset < 3 := by omega
      interval_cases offset
      · exact absurd occurs (by decide)
      · exact absurd occurs (by decide)
      · exact UInt64.toNat_inj.1 isAddress.symm
    · have fits : 2 ≤ 3 - offset := by simpa using occurs.length_le
      have inside : offset < 2 := by omega
      interval_cases offset
      · exact UInt64.toNat_inj.1 isAddress.symm
      · exact absurd occurs (by decide)
  have stands : StandsAt [⟨"", 0x1000, #[1, 2, 3, 4]⟩, ⟨"", 0x1002, #[3, 4, 5]⟩] 0x1002 [3, 4] :=
    ⟨_, List.mem_cons_self, 2, by decide, rfl⟩
  obtain ⟨-, -, -, -, pattern, -, settled⟩ :=
    value_tryLengths_of_uniqueAt {} stands (by decide) (Nat.min_le_right 5 _) unique
  have generated : generate {} 2 [⟨"", 0x1000, #[1, 2, 3, 4]⟩, ⟨"", 0x1002, #[3, 4, 5]⟩] 0x1002 =
      .ok pattern := settled
  have signature := generated_text_is_signature _ _ _ _ _ generated
  exact ⟨_, pattern, rfl, generated, signature.1, signature.2.1 _ (by decide),
    signature.2.2 _ _ rfl rfl⟩

end Generation

end BytePattern
