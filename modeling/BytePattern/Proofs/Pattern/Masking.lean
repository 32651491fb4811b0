import BytePattern.Proofs.Pattern.Canonical
import BytePattern.Proofs.Pattern.Equality
import BytePattern.Report

/-!
# Patterns as bytes and masks

Tools that know nothing of tokens compare masked bytes: every byte of a window, cut down to the
bits of its mask, has to be the byte that is asked for. The bytes and masks of a pattern find in
this way what the pattern finds. A wildcard and a fixed zero have the same byte, but not the same
mask, so no two patterns have the same bytes and masks; nor have they as texts in a report.
-/

namespace BytePattern

/-- Whether the bytes from an offset on, cut down to the masks, are the bytes asked for. -/
def MaskedAt (bytes masks : List UInt8) (data : Bytes) (offset : Nat) : Prop :=
  offset + bytes.length ≤ data.size ∧
    ∀ (index : Nat) (byte mask found : UInt8), bytes[index]? = some byte →
      masks[index]? = some mask → data[offset + index]? = some found → found &&& mask = byte

namespace Token

theorem and_full_mask (byte : UInt8) : byte &&& 0xFF = byte := by
  rw [← UInt8.toNat_inj, UInt8.toNat_and]
  exact (Nat.and_two_pow_sub_one_eq_mod byte.toNat 8).trans (Nat.mod_eq_of_lt byte.toNat_lt)

/-- A token admits the bytes that its mask cuts down to its byte. -/
theorem admits_iff_and_mask_eq (token : Token) (found : UInt8) :
    token.admits found = true ↔ found &&& token.mask = token.filledWith 0 := by
  cases token with
  | fixed byte =>
      rw [fixed_admits_iff, mask, and_full_mask]
      exact eq_comm
  | wildcard => exact iff_of_true rfl UInt8.and_zero

/-- The mask tells a wildcard from a fixed zero. -/
theorem byte_mask_injective :
    Function.Injective fun token : Token => (token.filledWith 0, token.mask) := by
  intro token other same
  obtain ⟨bytes, masks⟩ := Prod.mk.inj same
  cases token <;> cases other
  case fixed.fixed byte found => exact congrArg fixed bytes
  case wildcard.wildcard => rfl
  case fixed.wildcard => exact absurd (show (0xFF : UInt8) = 0x00 from masks) (by decide)
  case wildcard.fixed => exact absurd (show (0x00 : UInt8) = 0xFF from masks) (by decide)

end Token

namespace Pattern

variable {pattern another : Pattern}

theorem getElem?_bytes (pattern : Pattern) (index : Nat) :
    pattern.bytes[index]? = pattern.tokens[index]?.map (Token.filledWith 0) :=
  List.getElem?_map

theorem getElem?_masks (pattern : Pattern) (index : Nat) :
    pattern.masks[index]? = pattern.tokens[index]?.map Token.mask :=
  List.getElem?_map

theorem length_bytes (pattern : Pattern) : pattern.bytes.length = pattern.span :=
  List.length_map _

theorem length_masks (pattern : Pattern) : pattern.masks.length = pattern.span :=
  List.length_map _

theorem maskedAt_iff_occursAt {data : Bytes} {offset : Nat} :
    MaskedAt pattern.bytes pattern.masks data offset ↔ pattern.OccursAt data offset := by
  rw [MaskedAt, OccursAt, length_bytes]
  refine and_congr_right fun _ => ⟨?_, ?_⟩
  · intro masked index token found isToken isFound
    rw [Token.admits_iff_and_mask_eq]
    refine masked index _ _ found ?_ ?_ isFound
    · rw [getElem?_bytes, isToken, Option.map_some]
    · rw [getElem?_masks, isToken, Option.map_some]
  · intro admitted index byte mask found isByte isMask isFound
    rw [getElem?_bytes] at isByte
    obtain ⟨token, isToken, rfl⟩ := Option.map_eq_some_iff.1 isByte
    rw [getElem?_masks, isToken, Option.map_some] at isMask
    cases isMask
    exact (token.admits_iff_and_mask_eq found).1 (admitted index token found isToken isFound)

theorem eq_of_bytes_of_masks (bytes : pattern.bytes = another.bytes)
    (masks : pattern.masks = another.masks) : pattern = another := by
  have pairs (pattern : Pattern) : pattern.bytes.zip pattern.masks =
      pattern.tokens.map fun token => (token.filledWith 0, token.mask) :=
    List.zip_map'
  have same := pairs pattern
  rw [bytes, masks, pairs another] at same
  exact Pattern.ext (List.map_injective_iff.2 Token.byte_mask_injective same.symm)

end Pattern

/-- Bytes are determined by their pairs of digits. -/
theorem Text.spacedBytes_injective : Function.Injective Text.spacedBytes := by
  intro bytes others same
  have tokens (bytes : List UInt8) : Text.spacedBytes bytes =
      " ".intercalate ((bytes.map Token.fixed).map Token.text) := by
    rw [List.map_map]
    rfl
  rw [tokens, tokens] at same
  exact List.map_injective_iff.2 (fun _ _ => Token.fixed.inj)
    (Token.intercalate_text_injective same)

/-- The text under a name in the JSON form of a report. -/
def Report.textOf? (name : String) (report : Report) : Option String :=
  match report.toJson with
  | .object members =>
    match members.lookup name with
    | some (.string text) => some text
    | _ => none
  | _ => none

/-- The bytes and masks of a pattern stand for the pattern. Comparing masked bytes at every offset
finds what the pattern finds, patterns with the same bytes and masks are equal, and so are the
patterns of two reports in which the texts of the bytes and of the masks are the same. -/
theorem bytes_and_masks_determine_pattern :
    (∀ (pattern : Pattern) (data : Bytes),
      pattern.bytes.length = pattern.span ∧ pattern.masks.length = pattern.span ∧
      (pattern.scanAll data).toList.Pairwise (· < ·) ∧
      ∀ offset, offset ∈ (pattern.scanAll data).toList ↔
        MaskedAt pattern.bytes pattern.masks data offset) ∧
    (∀ pattern another : Pattern,
      (pattern.bytes = another.bytes ∧ pattern.masks = another.masks) ↔
        (pattern == another) = true) ∧
    ∀ first second : Report,
      (∃ bytes masks, first.textOf? "bytes" = some bytes ∧ second.textOf? "bytes" = some bytes ∧
        first.textOf? "masks" = some masks ∧ second.textOf? "masks" = some masks) ↔
        (first.pattern == second.pattern) = true := by
  refine ⟨fun pattern data => ⟨pattern.length_bytes, pattern.length_masks, ?_, ?_⟩, ?_, ?_⟩
  · rw [Pattern.toList_scanAll]
    exact pattern.pairwise_lt_occurrences data
  · intro offset
    rw [Pattern.mem_toList_scanAll_iff, Pattern.maskedAt_iff_occursAt]
  · intro pattern another
    rw [beq_iff_eq]
    constructor
    · rintro ⟨bytes, masks⟩
      exact Pattern.eq_of_bytes_of_masks bytes masks
    · rintro rfl
      exact ⟨rfl, rfl⟩
  · intro first second
    have bytesText (report : Report) :
        report.textOf? "bytes" = some (Text.spacedBytes report.pattern.bytes) := rfl
    have masksText (report : Report) :
        report.textOf? "masks" = some (Text.spacedBytes report.pattern.masks) := rfl
    simp only [bytesText, masksText, beq_iff_eq, Option.some.injEq]
    constructor
    · rintro ⟨_, _, rfl, sameBytes, rfl, sameMasks⟩
      exact Pattern.eq_of_bytes_of_masks (Text.spacedBytes_injective sameBytes.symm)
        (Text.spacedBytes_injective sameMasks.symm)
    · intro same
      exact ⟨_, _, rfl, by rw [same], rfl, by rw [same]⟩

end BytePattern
