import BytePattern.Proofs.Expression.Token

/-!
# Addresses as they are given

An address is given as a numeral: hexadecimal digits of a number below 2^64, with a mark before
them or without one. All numerals are read, and besides them those with a plus sign between their
mark and their digits; nothing else is. Addresses are printed as numerals.
-/

namespace BytePattern.Text

open Expression Expression.Grammar

/-- How an address is written: as a numeral of its value. -/
def IsAddress (text : List Char) (value : UInt64) : Prop :=
  ∃ numeral : Numeral, text = numeral.mark.text ++ numeral.digits ∧
    hexNumber numeral.digits = value.toNat

/-- A numeral of the address with a plus sign right before its digits. -/
def IsSignedAddress (text : List Char) (value : UInt64) : Prop :=
  ∃ numeral : Numeral, text = numeral.mark.text ++ '+' :: numeral.digits ∧
    hexNumber numeral.digits = value.toNat

/-- The numeral that an address is printed as. -/
def printedNumeral (value : UInt64) : Numeral where
  mark := .lower
  digits := hexDigits .upper value.toNat
  digits_ne_nil := (hexDigits_spec .upper value.toNat).1
  isHexDigit := (hexDigits_spec .upper value.toNat).2.1
  hexNumber_lt := by
    rw [(hexDigits_spec .upper value.toNat).2.2]
    exact value.toNat_lt

theorem hexNumber_printedNumeral (value : UInt64) :
    hexNumber (printedNumeral value).digits = value.toNat :=
  (hexDigits_spec .upper value.toNat).2.2

theorem toList_address (value : UInt64) :
    (address value).toList = (Word.number (printedNumeral value)).text := by
  simp only [address, hex, String.toList_append, String.toList_ofList]
  rfl

theorem isAddress_address (value : UInt64) : IsAddress (address value).toList value :=
  ⟨printedNumeral value, toList_address value, hexNumber_printedNumeral value⟩

section Numerals

variable {text digits : List Char} {value : UInt64}

/-- What is read as digits are the digits of a numeral, whatever mark stood before them. -/
theorem word64Digits?_eq_some_iff_numeral (mark : Mark) :
    word64Digits? 16 digits = some value ↔
      ∃ numeral : Numeral, numeral.mark = mark ∧ numeral.digits = digits ∧
        hexNumber digits = value.toNat := by
  rw [word64Digits?_eq_some_iff]
  constructor
  · rintro ⟨nonempty, hexadecimal, equal⟩
    exact ⟨⟨mark, digits, nonempty, hexadecimal, equal ▸ value.toNat_lt⟩, rfl, rfl, equal⟩
  · rintro ⟨numeral, -, rfl, equal⟩
    exact ⟨numeral.digits_ne_nil, numeral.isHexDigit, equal⟩

theorem readAddress?_eq_some_iff :
    readAddress? text = some value ↔ IsAddress text value ∨ IsSignedAddress text value := by
  constructor
  · intro read
    obtain ⟨mark, whole⟩ := exists_mark_append text
    unfold readAddress? word64? at read
    split at read
    · rename_i digits signed
      obtain ⟨numeral, rfl, rfl, equal⟩ := (word64Digits?_eq_some_iff_numeral mark).1 read
      exact .inr ⟨numeral, by rw [← signed, whole], equal⟩
    · obtain ⟨numeral, rfl, digits, equal⟩ := (word64Digits?_eq_some_iff_numeral mark).1 read
      exact .inl ⟨numeral, by rw [digits, whole], digits ▸ equal⟩
  · rintro (⟨numeral, rfl, equal⟩ | ⟨numeral, rfl, equal⟩)
    · rw [readAddress?, show numeral.mark.text ++ numeral.digits = (Word.number numeral).text from
        rfl, Numeral.dropHexMark_text, Numeral.word64?_digits, equal, UInt64.ofNat_toNat]
    · have lower : 'x' ∉ '+' :: numeral.digits :=
        List.not_mem_cons_of_ne_of_not_mem (by decide) (Numeral.notMem_digits (by decide))
      have upper : 'X' ∉ '+' :: numeral.digits :=
        List.not_mem_cons_of_ne_of_not_mem (by decide) (Numeral.notMem_digits (by decide))
      rw [readAddress?, numeral.mark.dropHexMark_append lower upper, word64?]
      exact (word64Digits?_eq_some_iff_numeral numeral.mark).2 ⟨numeral, rfl, rfl, equal⟩

theorem IsAddress.plus_notMem (address : IsAddress text value) : '+' ∉ text := by
  obtain ⟨numeral, rfl, -⟩ := address
  intro member
  exact absurd (Numeral.isWordCharacter_of_mem_text member) (by decide)

theorem IsSignedAddress.plus_mem (signed : IsSignedAddress text value) : '+' ∈ text := by
  obtain ⟨numeral, rfl, -⟩ := signed
  exact List.mem_append_right _ List.mem_cons_self

end Numerals

/-- A text is read as an address exactly if it is a numeral, or one with a plus sign before its
digits. So more than numerals is read only of texts with such a sign. -/
theorem addresses_read_are_numerals_or_signed_ones (text : List Char) :
    (∀ value, readAddress? text = some value ↔
      IsAddress text value ∨ IsSignedAddress text value) ∧
    ((∀ value, readAddress? text = some value ↔ IsAddress text value) ↔
      ∀ value, ¬ IsSignedAddress text value) := by
  refine ⟨fun value => readAddress?_eq_some_iff, ?_, ?_⟩
  · intro exact value signed
    have address := (exact value).1 (readAddress?_eq_some_iff.2 (.inr signed))
    exact address.plus_notMem signed.plus_mem
  · intro unsigned value
    rw [readAddress?_eq_some_iff, or_iff_left (unsigned value)]

/-- With a plus sign behind its mark, a text is read although it is no numeral. -/
theorem signed_text_read_as_address :
    readAddress? "0x+6".toList = some 6 ∧ ¬ IsAddress "0x+6".toList 6 :=
  ⟨by decide, fun address => address.plus_notMem (by decide)⟩

end BytePattern.Text
