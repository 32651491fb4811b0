import BytePattern.Expression.Evaluation
import Mathlib.Algebra.BigOperators.Fin
import Mathlib.Tactic.Ring

/-!
# Numbers in regions

A run of bytes stands for an unsigned number, the least significant byte first, and for a signed
one in two's complement. A load takes its bytes from the first region that holds all of them and
turns them into one of these numbers, modulo 2^64.
-/

namespace BytePattern

open Expression

/-- The number with these base-256 digits, the least significant first. -/
def unsignedNumber (bytes : List UInt8) : ℕ :=
  ∑ i : Fin bytes.length, bytes[i].toNat * 256 ^ (i : ℕ)

/-- The number in two's complement: with the highest bit set it counts as negative. -/
def signedNumber (bytes : List UInt8) : ℤ :=
  if unsignedNumber bytes < 2 ^ (8 * bytes.length - 1) then unsignedNumber bytes
  else unsignedNumber bytes - 2 ^ (8 * bytes.length)

namespace Region

theorem littleEndian_eq_unsignedNumber (bytes : List UInt8) :
    littleEndian bytes = unsignedNumber bytes := by
  induction bytes with
  | nil => rfl
  | cons byte rest ih =>
      rw [littleEndian, ih, unsignedNumber, unsignedNumber, Finset.mul_sum]
      simp only [List.length_cons, Fin.sum_univ_succ]
      simp only [Fin.getElem_fin, Fin.val_zero, List.getElem_cons_zero, pow_zero, mul_one,
        Fin.val_succ, List.getElem_cons_succ, Nat.add_left_cancel_iff]
      apply Finset.sum_congr rfl
      intro i _
      ring

theorem littleEndian_lt (bytes : List UInt8) : littleEndian bytes < 2 ^ (8 * bytes.length) := by
  induction bytes with
  | nil => simp [littleEndian]
  | cons byte rest ih =>
      have small := byte.toNat_lt
      have power : 2 ^ (8 * (byte :: rest).length) = 256 * 2 ^ (8 * rest.length) := by
        rw [List.length_cons, Nat.mul_succ, pow_add]
        ring
      rw [littleEndian, power]
      omega

/-- A word that makes room for a byte takes it up as its lowest digit. -/
theorem toNat_shiftLeft_or (value : UInt64) (byte : UInt8) :
    (value <<< 8 ||| byte.toUInt64).toNat = (byte.toNat + 256 * value.toNat) % 2 ^ 64 := by
  have small : byte.toNat < 2 ^ 8 := byte.toNat_lt
  have shifted : (value <<< 8).toNat = 2 ^ 8 * (value.toNat % 2 ^ 56) := by
    rw [UInt64.toNat_shiftLeft, Nat.shiftLeft_eq]
    show value.toNat * 2 ^ 8 % 2 ^ 64 = 2 ^ 8 * (value.toNat % 2 ^ 56)
    omega
  rw [UInt64.toNat_or, shifted, UInt8.toNat_toUInt64, ← Nat.two_pow_add_eq_or_of_lt small]
  omega

/-- Shifting bytes together gives their number, modulo 2^64. -/
theorem joinBytes_eq (bytes : List UInt8) :
    joinBytes bytes = UInt64.ofNat (littleEndian bytes) := by
  rw [joinBytes, List.foldl_reverse]
  induction bytes with
  | nil => rfl
  | cons byte rest ih =>
      rw [List.foldr_cons, ih, littleEndian, ← UInt64.toNat_inj, toNat_shiftLeft_or,
        UInt64.toNat_ofNat', UInt64.toNat_ofNat', Nat.add_mod, Nat.mul_mod_mod, ← Nat.add_mod]

/-- Eight bytes fit into a word, so nothing of the number of fewer bytes is lost. -/
theorem toNat_joinBytes {bytes : List UInt8} (few : bytes.length ≤ 8) :
    (joinBytes bytes).toNat = littleEndian bytes := by
  rw [joinBytes_eq, UInt64.toNat_ofNat', Nat.mod_eq_of_lt]
  calc littleEndian bytes < 2 ^ (8 * bytes.length) := littleEndian_lt bytes
    _ ≤ 2 ^ 64 := Nat.pow_le_pow_right (by decide) (by omega)

/-- Whether so many bytes from the address on lie in the region. -/
def HoldsAll (region : Region) (address : UInt64) (count : Nat) : Prop :=
  region.base.toNat ≤ address.toNat ∧
    address.toNat - region.base.toNat + count ≤ region.size

instance (region : Region) (address : UInt64) (count : Nat) :
    Decidable (region.HoldsAll address count) :=
  inferInstanceAs (Decidable (_ ∧ _))

/-- The bytes from an address on are those of the region. -/
def Shows (region : Region) (address : UInt64) (bytes : List UInt8) : Prop :=
  ∀ i : Fin bytes.length,
    region.bytes[address.toNat - region.base.toNat + i]? = some bytes[i]

variable {region : Region} {address : UInt64} {count : Nat} {bytes : List UInt8}

def bytesAt (region : Region) (address : UInt64) (count : Nat) : List UInt8 :=
  let offset := address.toNat - region.base.toNat
  (region.bytes.extract offset (offset + count)).toList

theorem length_bytesAt (holds : region.HoldsAll address count) :
    (region.bytesAt address count).length = count := by
  have inside : address.toNat - region.base.toNat + count ≤ region.bytes.size := holds.2
  simp only [bytesAt, Array.length_toList, Array.size_extract]
  omega

theorem shows_bytesAt (holds : region.HoldsAll address count) :
    region.Shows address (region.bytesAt address count) := by
  rintro ⟨i, small⟩
  have inside : address.toNat - region.base.toNat + count ≤ region.bytes.size := holds.2
  rw [length_bytesAt holds] at small
  have near : address.toNat - region.base.toNat + i < region.bytes.size := by omega
  simp [bytesAt, Array.getElem?_eq_getElem near]

theorem Shows.eq_bytesAt (shows' : region.Shows address bytes)
    (holds : region.HoldsAll address bytes.length) :
    bytes = region.bytesAt address bytes.length := by
  apply List.ext_getElem (length_bytesAt holds).symm
  intro i small other
  have found := shows' ⟨i, small⟩
  have same := shows_bytesAt holds ⟨i, other⟩
  exact Option.some.inj (found.symm.trans same)

/-- A number of one to eight bytes is read exactly if the region holds all of them. -/
theorem readNumber?_eq (pos : 0 < count) (small : count ≤ 8) :
    region.readNumber? address count =
      if region.HoldsAll address count then
        some (joinBytes (region.bytesAt address count))
      else none := by
  rw [readNumber?, if_neg (by omega)]
  by_cases before : address < region.base
  · rw [if_pos before, if_neg]
    rintro ⟨notBefore, -⟩
    rw [UInt64.lt_iff_toNat_lt] at before
    omega
  · rw [if_neg before]
    rw [UInt64.lt_iff_toNat_lt, Nat.not_lt] at before
    by_cases inside : address.toNat - region.base.toNat + count ≤ region.size
    · simp [HoldsAll, before, inside, bytesAt]
    · simp [HoldsAll, inside]

end Region

namespace Expression

theorem Width.bytes_pos (width : Width) : 0 < width.bytes := by
  cases width <;> decide

theorem Width.bytes_le (width : Width) : width.bytes ≤ 8 := by
  cases width <;> decide

/-- Adding a power of two to a smaller number sets a bit that was clear. -/
theorem xor_two_pow_of_lt {number exponent : Nat} (small : number < 2 ^ exponent) :
    number ^^^ 2 ^ exponent = 2 ^ exponent + number := by
  have sum := Nat.two_pow_add_eq_or_of_lt small 1
  rw [Nat.mul_one] at sum
  rw [sum]
  apply Nat.eq_of_testBit_eq
  intro i
  rw [Nat.testBit_xor, Nat.testBit_or, Nat.testBit_two_pow]
  by_cases here : exponent = i
  · subst here
    simp [Nat.testBit_lt_two_pow small]
  · simp [here]

theorem two_pow_add_xor_of_lt {number exponent : Nat} (small : number < 2 ^ exponent) :
    (2 ^ exponent + number) ^^^ 2 ^ exponent = number := by
  rw [← xor_two_pow_of_lt small, Nat.xor_assoc, Nat.xor_self, Nat.xor_zero]

/-- The bit that makes a number of the width negative. -/
theorem toNat_signBit (width : Width) :
    (UInt64.ofNat (Nat.pow 2 (8 * width.bytes - 1))).toNat = 2 ^ (8 * width.bytes - 1) := by
  cases width <;> rfl

/-- Flipping the sign bit and taking its weight away again leaves the number in two's complement;
with all 64 bits there the number is in two's complement already. -/
theorem toNat_signExtend {width : Width} {value : UInt64} {bytes : List UInt8}
    (length : bytes.length = width.bytes) (number : value.toNat = unsignedNumber bytes) :
    ((width.signExtend value).toNat : ℤ) = signedNumber bytes % 2 ^ 64 := by
  have bound := Region.littleEndian_lt bytes
  rw [Region.littleEndian_eq_unsignedNumber, ← number, length] at bound
  rw [signedNumber, ← number, length, Width.signExtend]
  by_cases whole : 64 ≤ 8 * width.bytes
  · have all : 8 * width.bytes = 64 := Nat.le_antisymm (by have := width.bytes_le; omega) whole
    rw [if_pos whole, all]
    rw [all] at bound
    split <;> omega
  rw [if_neg whole, UInt64.toNat_sub, UInt64.toNat_xor, toNat_signBit]
  rcases Nat.lt_or_ge value.toNat (2 ^ (8 * width.bytes - 1)) with small | large
  · rw [if_pos small, xor_two_pow_of_lt small]
    cases width <;> simp only [Width.bytes] at bound small ⊢ <;> omega
  · rw [if_neg (Nat.not_lt.2 large)]
    obtain ⟨rest, split⟩ := Nat.exists_eq_add_of_le large
    have low : rest < 2 ^ (8 * width.bytes - 1) := by
      cases width <;> simp only [Width.bytes] at bound split ⊢ <;> omega
    rw [split, two_pow_add_xor_of_lt low]
    cases width <;> simp only [Width.bytes] at low ⊢ <;> omega

end Expression

end BytePattern
