import BytePattern.Text.Blank
import BytePattern.Text.Numeral
import Mathlib.Data.Nat.Digits.Lemmas
import Mathlib.Tactic.Ring

/-!
# Hexadecimal numbers

A text of hexadecimal digits stands for the number that they are the digits of, the most
significant first. Reading a number succeeds exactly on such texts and gives that number.
-/

namespace BytePattern.Text

/-- The digits of hexadecimal numbers; letters of either case stand for ten and up. -/
def IsHexDigit (c : Char) : Prop :=
  c ∈ ['0', '1', '2', '3', '4', '5', '6', '7', '8', '9', 'a', 'b', 'c', 'd', 'e', 'f',
    'A', 'B', 'C', 'D', 'E', 'F']

instance : DecidablePred IsHexDigit :=
  fun _ => inferInstanceAs (Decidable (_ ∈ _))

/-- The value of a hexadecimal digit is its place among the digits of lower case. -/
def hexDigitValue (c : Char) : Nat :=
  ['0', '1', '2', '3', '4', '5', '6', '7', '8', '9', 'a', 'b', 'c', 'd', 'e', 'f'].idxOf c.toLower

/-- The number that a text of hexadecimal digits stands for. -/
def hexNumber (digits : List Char) : Nat :=
  Nat.ofDigits 16 (digits.reverse.map hexDigitValue)

@[simp] theorem hexNumber_nil : hexNumber [] = 0 := rfl

theorem hexNumber_cons (c : Char) (rest : List Char) :
    hexNumber (c :: rest) = hexDigitValue c * 16 ^ rest.length + hexNumber rest := by
  rw [hexNumber, List.reverse_cons, List.map_append, Nat.ofDigits_append, List.length_map,
    List.length_reverse, List.map_singleton, Nat.ofDigits_singleton, hexNumber]
  ring

theorem hexNumber_concat (digits : List Char) (c : Char) :
    hexNumber (digits ++ [c]) = hexNumber digits * 16 + hexDigitValue c := by
  rw [hexNumber, List.reverse_concat, List.map_cons, Nat.ofDigits_cons, ← hexNumber]
  ring

-- A quantifier over all characters would make `decide` enumerate them.
theorem IsHexDigit.all {c : Char} (digit : IsHexDigit c) (test : Char → Bool)
    (passed : ['0', '1', '2', '3', '4', '5', '6', '7', '8', '9', 'a', 'b', 'c', 'd', 'e', 'f',
      'A', 'B', 'C', 'D', 'E', 'F'].all test = true) : test c = true :=
  List.all_eq_true.1 passed c digit

theorem digitValue?_of_isHexDigit {c : Char} (digit : IsHexDigit c) :
    digitValue? 16 c = some (hexDigitValue c) :=
  beq_iff_eq.1 (digit.all (fun c => digitValue? 16 c == some (hexDigitValue c)) (by decide))

/-- No digit has a code behind that of the last letter, and the others are few. -/
theorem isHexDigit_of_digitValue? {c : Char} {value : Nat}
    (read : digitValue? 16 c = some value) : IsHexDigit c := by
  have bounded : c.toNat < 123 := by
    by_contra large
    have above (last : Char) (low : last.toNat < 123) : ¬ c ≤ last := by
      rw [Char.le_def, UInt32.le_iff_toNat_le]
      exact fun below => large (Nat.lt_of_le_of_lt below low)
    simp [digitValue?, above '9' (by decide), above 'z' (by decide), above 'Z' (by decide)]
      at read
  have listed : ∀ code < 123, (digitValue? 16 (Char.ofNat code)).isSome = true →
      IsHexDigit (Char.ofNat code) := by decide
  rw [← Char.ofNat_toNat c] at read ⊢
  exact listed c.toNat bounded (by rw [read, Option.isSome_some])

theorem digitValue?_eq_some_iff {c : Char} {value : Nat} :
    digitValue? 16 c = some value ↔ IsHexDigit c ∧ hexDigitValue c = value := by
  constructor
  · intro read
    have digit := isHexDigit_of_digitValue? read
    exact ⟨digit, Option.some.inj ((digitValue?_of_isHexDigit digit).symm.trans read)⟩
  · rintro ⟨digit, rfl⟩
    exact digitValue?_of_isHexDigit digit

theorem hexDigitValue_lt {c : Char} (digit : IsHexDigit c) : hexDigitValue c < 16 :=
  of_decide_eq_true (digit.all (fun c => decide (hexDigitValue c < 16)) (by decide))

/-- A written digit is read as the value that it was written for. -/
theorem hexDigit_spec (letters : Letters) {value : Nat} (small : value < 16) :
    IsHexDigit (hexDigit letters value) ∧ hexDigitValue (hexDigit letters value) = value := by
  revert value
  cases letters with
  | upper => decide
  | lower => decide

/-- The digits written for a number are the digits of that number. -/
theorem hexDigits_spec (letters : Letters) (value : Nat) :
    hexDigits letters value ≠ [] ∧ (∀ c ∈ hexDigits letters value, IsHexDigit c) ∧
      hexNumber (hexDigits letters value) = value := by
  fun_induction hexDigits letters value with
  | case1 value small =>
      obtain ⟨digit, equal⟩ := hexDigit_spec letters small
      refine ⟨List.cons_ne_nil _ _, List.forall_mem_singleton.2 digit, ?_⟩
      rw [← List.nil_append [hexDigit letters value], hexNumber_concat, equal, hexNumber_nil,
        Nat.zero_mul, Nat.zero_add]
  | case2 value large ih =>
      obtain ⟨-, higher, equal⟩ := ih
      obtain ⟨digit, last⟩ := hexDigit_spec letters (Nat.mod_lt value (by decide : 0 < 16))
      refine ⟨List.concat_ne_nil _ _, ?_, ?_⟩
      · exact List.forall_mem_append.2 ⟨higher, List.forall_mem_singleton.2 digit⟩
      · rw [hexNumber_concat, equal, last, Nat.div_add_mod']

theorem isBlank_of_isHexDigit {c : Char} (digit : IsHexDigit c) : isBlank c = false := by
  simpa using digit.all (fun c => !isBlank c) (by decide)

/-- Digits read behind a part already worth `value` are worth less by their number of places. -/
theorem digitsFrom?_eq_some_iff {value number : Nat} {text : List Char} :
    digitsFrom? 16 value text = some number ↔
      (∀ c ∈ text, IsHexDigit c) ∧ value * 16 ^ text.length + hexNumber text = number := by
  induction text generalizing value with
  | nil => simp [digitsFrom?]
  | cons c rest ih =>
      have placed : (value * 16 + hexDigitValue c) * 16 ^ rest.length + hexNumber rest =
          value * 16 ^ (c :: rest).length + hexNumber (c :: rest) := by
        rw [hexNumber_cons, List.length_cons]
        ring
      simp only [digitsFrom?, Option.bind_eq_bind, Option.bind_eq_some_iff, ih,
        digitValue?_eq_some_iff, List.forall_mem_cons, ← placed]
      constructor
      · rintro ⟨_, ⟨digit, rfl⟩, others, equal⟩
        exact ⟨⟨digit, others⟩, equal⟩
      · rintro ⟨⟨digit, others⟩, equal⟩
        exact ⟨_, ⟨digit, rfl⟩, others, equal⟩

theorem word64Digits?_eq_some_iff {text : List Char} {value : UInt64} :
    word64Digits? 16 text = some value ↔
      text ≠ [] ∧ (∀ c ∈ text, IsHexDigit c) ∧ hexNumber text = value.toNat := by
  cases text with
  | nil => simp [word64Digits?, digits?]
  | cons c rest =>
      simp only [word64Digits?, digits?, Option.bind_eq_bind, Option.bind_eq_some_iff,
        digitsFrom?_eq_some_iff, Nat.zero_mul, Nat.zero_add, ne_eq, reduceCtorEq,
        not_false_eq_true, true_and]
      constructor
      · rintro ⟨number, ⟨digits, rfl⟩, bounded⟩
        split at bounded
        · rename_i small
          cases bounded
          exact ⟨digits, (UInt64.toNat_ofNat_of_lt' small).symm⟩
        · cases bounded
      · rintro ⟨digits, equal⟩
        refine ⟨_, ⟨digits, equal⟩, ?_⟩
        rw [if_pos value.toNat_lt, UInt64.ofNat_toNat]

/-- A number read without a sign is one of hexadecimal digits below 2^64. -/
theorem word64?_eq_some_iff {text : List Char} {value : UInt64} (unsigned : '+' ∉ text) :
    word64? 16 text = some value ↔
      text ≠ [] ∧ (∀ c ∈ text, IsHexDigit c) ∧ hexNumber text = value.toNat := by
  rw [← word64Digits?_eq_some_iff, word64?]
  intro rest signed
  exact unsigned (signed ▸ List.mem_cons_self)

end BytePattern.Text
