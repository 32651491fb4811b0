import BytePattern.Proofs.Text.Hexadecimal
import BytePattern.Token

/-!
# Words that spell tokens

A word spells a token if it is one or two question marks or two hexadecimal digits. Tokens are read
from bytes, but no byte of a character behind the first 128 is the code of one of these, so a word
is read as a token exactly if it spells it.
-/

namespace BytePattern

namespace Text

theorem utf8EncodeChar_of_lt {c : Char} (low : c.toNat < 0x80) :
    String.utf8EncodeChar c = [UInt8.ofNat c.toNat] :=
  if_pos (Nat.le_of_lt_succ low)

theorem le_of_mem_utf8EncodeChar {c : Char} {byte : UInt8} (high : 0x80 ≤ c.toNat)
    (member : byte ∈ String.utf8EncodeChar c) : 0x80 ≤ byte.toNat := by
  have notLow : ¬ c.val.toNat ≤ 0x7F := Nat.not_le.2 high
  have upper {value : Nat} (large : 0x80 ≤ value) (small : value < 0x100)
      (same : byte = UInt8.ofNat value) : 0x80 ≤ byte.toNat := by
    rwa [same, UInt8.toNat_ofNat_of_lt' small]
  rw [String.utf8EncodeChar, if_neg notLow] at member
  split at member
  · simp only [List.mem_cons, List.not_mem_nil, or_false] at member
    rcases member with same | same <;> exact upper (by omega) (by omega) same
  · split at member <;> simp only [List.mem_cons, List.not_mem_nil, or_false] at member
    · rcases member with same | same | same <;> exact upper (by omega) (by omega) same
    · rcases member with same | same | same | same <;> exact upper (by omega) (by omega) same

/-- The bytes of a word are codes of the first 128 characters only if they are those of its own
characters. -/
theorem eq_map_of_flatMap_utf8EncodeChar {word : List Char} {bytes : List UInt8}
    (encoded : word.flatMap String.utf8EncodeChar = bytes)
    (low : ∀ byte ∈ bytes, byte.toNat < 0x80) :
    word = bytes.map fun byte => Char.ofNat byte.toNat := by
  induction word generalizing bytes with
  | nil =>
      subst encoded
      rfl
  | cons c rest ih =>
      subst encoded
      rw [List.flatMap_cons] at low ⊢
      rcases Nat.lt_or_ge c.toNat 0x80 with ascii | wide
      · rw [utf8EncodeChar_of_lt ascii] at low ⊢
        have code : (UInt8.ofNat c.toNat).toNat = c.toNat :=
          UInt8.toNat_ofNat_of_lt' (Nat.lt_trans ascii (by decide))
        rw [List.singleton_append, List.map_cons, code, Char.ofNat_toNat, ← ih rfl]
        exact fun byte member => low byte (List.mem_append_right _ member)
      · obtain ⟨byte, member⟩ := List.exists_mem_of_ne_nil _ (String.utf8EncodeChar_ne_nil (c := c))
        have small := low byte (List.mem_append_left _ member)
        have large := le_of_mem_utf8EncodeChar wide member
        omega

end Text

namespace Token

theorem hexValue?_of_isHexDigit {c : Char} (digit : Text.IsHexDigit c) :
    hexValue? (UInt8.ofNat c.toNat) = some (UInt8.ofNat (Text.hexDigitValue c)) :=
  beq_iff_eq.1 (digit.all (fun c => hexValue? (UInt8.ofNat c.toNat) ==
    some (UInt8.ofNat (Text.hexDigitValue c))) (by decide))

/-- A byte with a value is the code of a digit with that value. -/
theorem isHexDigit_of_hexValue? {byte value : UInt8} (read : hexValue? byte = some value) :
    byte.toNat < 0x80 ∧ Text.IsHexDigit (Char.ofNat byte.toNat) ∧
      Text.hexDigitValue (Char.ofNat byte.toNat) = value.toNat := by
  have bounded : byte.toNat < 0x67 := by
    by_contra large
    have above (last : UInt8) (low : last.toNat < 0x67) : ¬ byte ≤ last :=
      fun below => large (Nat.lt_of_le_of_lt (UInt8.le_iff_toNat_le.1 below) low)
    simp [hexValue?, above 0x39 (by decide), above 0x66 (by decide), above 0x46 (by decide)]
      at read
  have listed : ∀ code < 0x67, ((hexValue? (UInt8.ofNat code)).all fun value =>
      decide (Text.IsHexDigit (Char.ofNat code) ∧
        Text.hexDigitValue (Char.ofNat code) = value.toNat)) = true := by decide
  have found := listed byte.toNat bounded
  rw [UInt8.ofNat_toNat, read] at found
  exact ⟨Nat.lt_trans bounded (by decide), of_decide_eq_true found⟩

theorem toNat_shiftLeft_or {high low : UInt8} (highLt : high.toNat < 16) (lowLt : low.toNat < 16) :
    (high <<< 4 ||| low).toNat = 16 * high.toNat + low.toNat := by
  have joined := Nat.two_pow_add_eq_or_of_lt (i := 4) lowLt high.toNat
  have shifted : (high <<< 4).toNat = 2 ^ 4 * high.toNat := by
    rw [UInt8.toNat_shiftLeft, Nat.shiftLeft_eq]
    show high.toNat * 2 ^ 4 % 2 ^ 8 = 2 ^ 4 * high.toNat
    omega
  rw [UInt8.toNat_or, shifted, ← joined]

/-- Which token a word spells, if any. -/
inductive Spells : List Char → Token → Prop
  | question : Spells ['?'] .wildcard
  | questions : Spells ['?', '?'] .wildcard
  | digits {high low : Char} {byte : UInt8} (highDigit : Text.IsHexDigit high)
      (lowDigit : Text.IsHexDigit low)
      (value : byte.toNat = 16 * Text.hexDigitValue high + Text.hexDigitValue low) :
      Spells [high, low] (.fixed byte)

theorem shiftLeft_or_eq_iff {high low : Char} {byte : UInt8} (highDigit : Text.IsHexDigit high)
    (lowDigit : Text.IsHexDigit low) :
    UInt8.ofNat (Text.hexDigitValue high) <<< 4 ||| UInt8.ofNat (Text.hexDigitValue low) = byte ↔
      byte.toNat = 16 * Text.hexDigitValue high + Text.hexDigitValue low := by
  have highLt := Text.hexDigitValue_lt highDigit
  have lowLt := Text.hexDigitValue_lt lowDigit
  have value {digit : Nat} (small : digit < 16) : (UInt8.ofNat digit).toNat = digit :=
    UInt8.toNat_ofNat_of_lt' (Nat.lt_trans small (by decide))
  rw [← UInt8.toNat_inj, toNat_shiftLeft_or (by rwa [value highLt]) (by rwa [value lowLt]),
    value highLt, value lowLt, eq_comm]

theorem ofWord?_eq_some_iff {characters : List Char} {token : Token} :
    ofWord? characters = some token ↔ Spells characters token := by
  constructor
  · intro read
    unfold ofWord? at read
    generalize encoded : characters.flatMap String.utf8EncodeChar = bytes at read
    unfold ofBytes? at read
    split at read
    · cases read
      have characters := Text.eq_map_of_flatMap_utf8EncodeChar encoded (by simp)
      subst characters
      exact .question
    · cases read
      have characters := Text.eq_map_of_flatMap_utf8EncodeChar encoded (by simp)
      subst characters
      exact .questions
    · rename_i high low _
      simp only [Option.bind_eq_bind, Option.bind_eq_some_iff] at read
      obtain ⟨highValue, highRead, lowValue, lowRead, same⟩ := read
      obtain ⟨highLow, highDigit, highIs⟩ := isHexDigit_of_hexValue? highRead
      obtain ⟨lowLow, lowDigit, lowIs⟩ := isHexDigit_of_hexValue? lowRead
      have characters := Text.eq_map_of_flatMap_utf8EncodeChar encoded
        (by simp [highLow, lowLow])
      subst characters
      cases same
      refine .digits highDigit lowDigit ((shiftLeft_or_eq_iff highDigit lowDigit).1 ?_)
      rw [highIs, lowIs, UInt8.ofNat_toNat, UInt8.ofNat_toNat]
    · cases read
  · intro spells
    cases spells with
    | question => decide
    | questions => decide
    | @digits high low byte highDigit lowDigit value =>
        have ascii {c : Char} (digit : Text.IsHexDigit c) :
            String.utf8EncodeChar c = [UInt8.ofNat c.toNat] ∧ UInt8.ofNat c.toNat ≠ 0x3F :=
          of_decide_eq_true (digit.all (fun c => decide
            (String.utf8EncodeChar c = [UInt8.ofNat c.toNat] ∧ UInt8.ofNat c.toNat ≠ 0x3F))
            (by decide))
        have bytes : [high, low].flatMap String.utf8EncodeChar =
            [UInt8.ofNat high.toNat, UInt8.ofNat low.toNat] := by
          rw [List.flatMap_cons, List.flatMap_singleton, (ascii highDigit).1, (ascii lowDigit).1]
          rfl
        rw [ofWord?, bytes, ofBytes?, hexValue?_of_isHexDigit highDigit,
          hexValue?_of_isHexDigit lowDigit]
        · exact congrArg (some ∘ Token.fixed)
            ((shiftLeft_or_eq_iff highDigit lowDigit).2 value)
        · exact fun isQuestion _ => (ascii highDigit).2 isQuestion

end Token

end BytePattern
