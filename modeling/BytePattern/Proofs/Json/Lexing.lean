import BytePattern.Json.Lexeme
import BytePattern.Json.Number
import BytePattern.Json.Value
import Mathlib.Tactic.IntervalCases

/-!
# Written values cut into lexemes

A value is written as a run of lexemes without any space between them. The lexer cuts the text of a
value back into these lexemes, whatever lexemes stand behind it, as long as the next character is
none that a number could go on with. The characters of strings come back from their escapes, and
numbers from their digits.
-/

namespace BytePattern.Json

/-! ## Strings -/

/-- The part of a string that a character is written as. -/
def Piece.ofChar (c : Char) : Piece :=
  if c ∈ ['"', '\\', '\n', '\r', '\t', '\x08', '\x0C'] then .escape c
  else if c.toNat < 0x20 then .unit c.toNat
  else .character c

/-- Two digits are enough for a control character. -/
theorem digits?_control {code : Nat} (small : code < 0x20) :
    Text.digits? 16 ['0', '0', Text.hexDigit .lower (code / 16), Text.hexDigit .lower (code % 16)] =
      some code := by
  revert code
  decide

section Strings

variable {c letter : Char} {rest : List Char} {code : Nat}

theorem readString?_letter (known : escaped? letter = some c) :
    readString? ('\\' :: letter :: rest) =
      (readString? rest).map fun (pieces, behind) => (.escape c :: pieces, behind) := by
  rw [readString?.eq_def]
  split
  · rename_i nothing
    cases nothing
  · rename_i quote
    cases quote
  · rename_i unicode
    cases unicode
    cases known
  · rename_i equal
    cases equal
    cases readString? rest <;> simp [known]
  · rename_i others equal
    cases equal
    exact absurd rfl (others letter rest rfl)

theorem readString?_unit {first second third fourth : Char}
    (digits : Text.digits? 16 [first, second, third, fourth] = some code) :
    readString? ('\\' :: 'u' :: first :: second :: third :: fourth :: rest) =
      (readString? rest).map fun (pieces, behind) => (.unit code :: pieces, behind) := by
  cases read : readString? rest <;> simp [readString?, digits, read]

theorem readString?_plain (visible : ¬ c.toNat < 0x20) (quote : c ≠ '"') (backslash : c ≠ '\\') :
    readString? (c :: rest) =
      (readString? rest).map fun (pieces, behind) => (.character c :: pieces, behind) := by
  rw [readString?.eq_def]
  split
  · rename_i nothing
    cases nothing
  · rename_i equal
    cases equal
    exact absurd rfl quote
  · rename_i equal
    cases equal
    exact absurd rfl backslash
  · rename_i equal
    cases equal
    exact absurd rfl backslash
  · rename_i equal
    cases equal
    rw [if_neg (not_or.2 ⟨visible, backslash⟩)]
    cases readString? rest <;> rfl

/-- Each character is read back as the part that it was written as. -/
theorem readString?_escape (c : Char) (rest : List Char) :
    readString? (escape c ++ rest) =
      (readString? rest).map fun (pieces, behind) => (Piece.ofChar c :: pieces, behind) := by
  by_cases short : c ∈ ['"', '\\', '\n', '\r', '\t', '\x08', '\x0C']
  · rw [Piece.ofChar, if_pos short]
    simp only [List.mem_cons, List.not_mem_nil, or_false] at short
    rcases short with rfl | rfl | rfl | rfl | rfl | rfl | rfl <;> exact readString?_letter rfl
  · rw [Piece.ofChar, if_neg short]
    simp only [List.mem_cons, List.not_mem_nil, or_false, not_or] at short
    obtain ⟨quote, backslash, others⟩ := short
    simp only [escape, quote, backslash, others, if_false]
    by_cases hidden : c.toNat < 0x20
    · simp only [if_pos hidden]
      exact readString?_unit (digits?_control hidden)
    · simp only [if_neg hidden]
      exact readString?_plain hidden quote backslash

theorem readString?_flatMap_escape (text rest : List Char) :
    readString? (text.flatMap escape ++ '"' :: rest) = some (text.map Piece.ofChar, rest) := by
  induction text with
  | nil => simp [readString?]
  | cons c text ih =>
      rw [List.flatMap_cons, List.append_assoc, readString?_escape, ih]
      rfl

/-- The parts of a written string join to the string: none of them is half a character. -/
theorem joinPieces?_map_ofChar (text : List Char) :
    joinPieces? (text.map Piece.ofChar) = some text := by
  induction text with
  | nil => rfl
  | cons c text ih =>
      rw [List.map_cons, Piece.ofChar]
      split
      · rw [joinPieces?, ih]
        rfl
      · split
        · rename_i hidden
          have whole : c.toNat < 0xD800 ∨ 0xDFFF < c.toNat := by omega
          rw [joinPieces?.eq_def]
          simp only [if_pos whole, ih, Char.ofNat_toNat, Option.map_some]
        · rw [joinPieces?, ih]
          rfl

end Strings

/-! ## Numbers -/

/-- The digits of a number, the most significant first. -/
def decimal (number : Nat) : List Nat :=
  if number < 10 then [number] else decimal (number / 10) ++ [number % 10]

theorem toDigits_eq_map_decimal (number : Nat) :
    Nat.toDigits 10 number = (decimal number).map Nat.digitChar := by
  induction number using decimal.induct with
  | case1 number small =>
      rw [decimal, if_pos small, Nat.toDigits_of_lt_base small, List.map_singleton]
  | case2 number large ih =>
      rw [decimal, if_neg large, Nat.toDigits_of_base_le (by decide) (Nat.not_lt.1 large), ih,
        List.map_append, List.map_singleton]

theorem decimal_lt (number : Nat) : ∀ digit ∈ decimal number, digit < 10 := by
  induction number using decimal.induct with
  | case1 number small => simp [decimal, small]
  | case2 number large ih =>
      rw [decimal, if_neg large]
      intro digit member
      rcases List.mem_append.1 member with front | last
      · exact ih digit front
      · rw [List.mem_singleton.1 last]
        exact Nat.mod_lt _ (by decide)

theorem ofDigits_decimal (number : Nat) : Numeral.ofDigits (decimal number) = number := by
  induction number using decimal.induct with
  | case1 number small => simp [decimal, small, Numeral.ofDigits]
  | case2 number large ih =>
      rw [decimal, if_neg large, Numeral.ofDigits, List.foldl_append]
      rw [Numeral.ofDigits] at ih
      rw [ih]
      simp only [List.foldl_cons, List.foldl_nil]
      omega

/-- Only zero starts with a zero. -/
theorem head?_decimal {number : Nat} (pos : 0 < number) : (decimal number).head? ≠ some 0 := by
  induction number using decimal.induct with
  | case1 number small =>
      rw [decimal, if_pos small]
      simp [Nat.ne_of_gt pos]
  | case2 number large ih =>
      rw [decimal, if_neg large, List.head?_append]
      have front := ih (by omega)
      cases first : (decimal (number / 10)).head? with
      | none =>
          intro last
          rw [List.head?_eq_none_iff] at first
          have value := ofDigits_decimal (number / 10)
          rw [first, Numeral.ofDigits, List.foldl_nil] at value
          omega
      | some digit =>
          rw [first] at front
          exact front

theorem decimal_ne_nil (number : Nat) : decimal number ≠ [] := by
  rw [decimal]
  split <;> simp

theorem decimal_ne_zero_cons_cons (number second : Nat) (others : List Nat) :
    decimal number ≠ 0 :: second :: others := by
  intro zero
  by_cases pos : 0 < number
  · apply head?_decimal pos
    rw [zero, List.head?_cons]
  · obtain rfl : number = 0 := by omega
    rw [decimal] at zero
    cases zero

/-- The numeral of a number: its digits and nothing else. -/
def Numeral.ofNat (number : Nat) : Numeral :=
  { whole := decimal number }

theorem Numeral.value?_ofNat {number : Nat} (small : number < UInt64.size) :
    (Numeral.ofNat number).value? = some (.natural (UInt64.ofNat number)) := by
  simp only [value?, ofNat, ofDigits_decimal, Option.isSome_none, Bool.or_self, Bool.false_eq_true,
    if_false, if_pos small]

/-- What may stand behind a value: nothing, or a character that ends it. -/
def Ends (rest : List Char) : Prop :=
  ∀ c ∈ rest.head?, c = ',' ∨ c = ']' ∨ c = '\x7d'

section Numbers

variable {rest : List Char} {digits : List Nat}

theorem ends_nil : Ends [] := by
  intro c front
  cases front

theorem ends_cons {c : Char} (ending : c = ',' ∨ c = ']' ∨ c = '\x7d') : Ends (c :: rest) := by
  rintro _ ⟨⟩
  exact ending

theorem readDigits_of_ends (ends : Ends rest) : readDigits rest = ([], rest) := by
  cases rest with
  | nil => rfl
  | cons c rest =>
      have noDigit : Text.digitValue? 10 c = none := by
        rcases ends c rfl with rfl | rfl | rfl <;> rfl
      rw [readDigits, noDigit]

theorem digitValue?_digitChar {digit : Nat} (small : digit < 10) :
    Text.digitValue? 10 digit.digitChar = some digit := by
  revert digit
  decide

theorem readDigits_map_digitChar (small : ∀ digit ∈ digits, digit < 10) (ends : Ends rest) :
    readDigits (digits.map Nat.digitChar ++ rest) = (digits, rest) := by
  induction digits with
  | nil => exact readDigits_of_ends ends
  | cons digit digits ih =>
      obtain ⟨first, others⟩ := List.forall_mem_cons.1 small
      rw [List.map_cons, List.cons_append, readDigits, digitValue?_digitChar first, ih others]

theorem readWhole?_decimal (number : Nat) (ends : Ends rest) :
    readWhole? ((decimal number).map Nat.digitChar ++ rest) = some (decimal number, rest) := by
  have read := readDigits_map_digitChar (decimal_lt number) ends
  have some : readSomeDigits? ((decimal number).map Nat.digitChar ++ rest) =
      some (decimal number, rest) := by
    rw [readSomeDigits?, read]
    split
    · rename_i nothing
      exact absurd (Prod.mk.inj nothing).1 (decimal_ne_nil number)
    · rfl
  simp only [readWhole?, some, Option.bind_eq_bind, Option.bind_some]
  split
  · rename_i second others zero
    exact absurd zero (decimal_ne_zero_cons_cons number second others)
  · rfl

theorem readFraction?_of_ends (ends : Ends rest) : readFraction? rest = some (none, rest) := by
  cases rest with
  | nil => rfl
  | cons c rest => rcases ends c rfl with rfl | rfl | rfl <;> rfl

theorem readExponent?_of_ends (ends : Ends rest) : readExponent? rest = some (none, rest) := by
  cases rest with
  | nil => rfl
  | cons c rest => rcases ends c rfl with rfl | rfl | rfl <;> rfl

theorem readNumeral?_decimal (number : Nat) (ends : Ends rest) :
    readNumeral? false ((decimal number).map Nat.digitChar ++ rest) =
      some (.number (Numeral.ofNat number), rest) := by
  simp only [readNumeral?, readWhole?_decimal number ends, Option.bind_eq_bind, Option.bind_some,
    readFraction?_of_ends ends, readExponent?_of_ends ends]
  rfl

/-- A lexeme that starts with a digit is a number. -/
theorem readLexeme?_digitChar {digit : Nat} (small : digit < 10) :
    readLexeme? (digit.digitChar :: rest) = readNumeral? false (digit.digitChar :: rest) := by
  interval_cases digit <;> rfl

theorem isSpace_digitChar {digit : Nat} (small : digit < 10) :
    isSpace digit.digitChar = false := by
  revert digit
  decide

end Numbers

/-! ## Values -/

/-- The lexemes of a text, wherever it starts. -/
def IsCutInto (text : List Char) (lexemes : List Lexeme) : Prop :=
  ∀ start more, text.length ≤ more →
    (lexemesFrom start text more).map Placed.lexeme = lexemes

section Cutting

variable {c : Char} {text rest : List Char} {lexeme : Lexeme} {lexemes : List Lexeme}

theorem isCutInto_nil : IsCutInto [] [] := by
  intro start more _
  cases more <;> rfl

theorem IsCutInto.cons (solid : isSpace c = false)
    (read : readLexeme? (c :: text) = some (lexeme, rest)) (shorter : rest.length ≤ text.length)
    (others : IsCutInto rest lexemes) : IsCutInto (c :: text) (lexeme :: lexemes) := by
  intro start more enough
  cases more with
  | zero => cases enough
  | succ more =>
      have behind : rest.length ≤ more := by
        rw [List.length_cons] at enough
        omega
      rw [lexemesFrom, List.dropWhile_cons_of_neg (by simp [solid])]
      simp only [read, List.map_cons]
      rw [others _ _ behind]

end Cutting

namespace Value

mutual

/-- The lexemes that a value is written as. -/
def lexemes : Value → List Lexeme
  | .null => [.null]
  | .bool value => [.bool value]
  | .number value => [.number (Numeral.ofNat value)]
  | .string text => [.string (text.toList.map Piece.ofChar)]
  | .array items => .openBracket :: (itemLexemes items ++ [.closeBracket])
  | .object members => .openBrace :: (memberLexemes members ++ [.closeBrace])

def itemLexemes : List Value → List Lexeme
  | [] => []
  | [item] => item.lexemes
  | item :: next :: rest => item.lexemes ++ .comma :: itemLexemes (next :: rest)

def memberLexemes : List (String × Value) → List Lexeme
  | [] => []
  | [(name, value)] => .string (name.toList.map Piece.ofChar) :: .colon :: value.lexemes
  | (name, value) :: next :: rest =>
    .string (name.toList.map Piece.ofChar) :: .colon ::
      (value.lexemes ++ .comma :: memberLexemes (next :: rest))

end

section Cutting

variable {rest : List Char} {behind : List Lexeme}

theorem isCutInto_quoted (text : String) (others : IsCutInto rest behind) :
    IsCutInto (quoted text ++ rest) (.string (text.toList.map Piece.ofChar) :: behind) := by
  rw [quoted, List.cons_append, List.cons_append, List.append_assoc, List.singleton_append]
  refine .cons rfl ?_ ?_ others
  · simp [readLexeme?, readString?_flatMap_escape]
  · simp only [List.length_append, List.length_cons]
    omega

theorem isCutInto_number (number : Nat) (ends : Ends rest) (others : IsCutInto rest behind) :
    IsCutInto ((toString number).toList ++ rest) (.number (Numeral.ofNat number) :: behind) := by
  have written : (toString number).toList = (decimal number).map Nat.digitChar := by
    rw [Nat.toString_eq_repr, Nat.repr_eq_ofList_toDigits, String.toList_ofList,
      toDigits_eq_map_decimal]
  have read := readNumeral?_decimal number ends
  have small := decimal_lt number
  rw [written]
  cases digits : decimal number with
  | nil => exact absurd digits (decimal_ne_nil number)
  | cons digit others' =>
      rw [digits] at small read
      have first := (List.forall_mem_cons.1 small).1
      refine .cons (isSpace_digitChar first) ?_ ?_ others
      · exact (readLexeme?_digitChar first).trans read
      · simp

theorem compactItems_cons_cons (item next : Value) (rest : List Value) :
    compactItems (item :: next :: rest) = item.compact ++ ',' :: compactItems (next :: rest) := by
  rw [compactItems]
  simp

theorem compactMembers_cons_cons (name : String) (value : Value) (next : String × Value)
    (rest : List (String × Value)) :
    compactMembers ((name, value) :: next :: rest) =
      quoted name ++ ':' :: value.compact ++ ',' :: compactMembers (next :: rest) := by
  rw [compactMembers]
  simp

mutual

-- The induction is on the value. The text behind a value starts with what ends it, and each part of
-- the text is cut off on its own.
theorem isCutInto_compact {rest : List Char} {behind : List Lexeme} : (value : Value) →
    Ends rest → IsCutInto rest behind →
      IsCutInto (value.compact ++ rest) (value.lexemes ++ behind)
  | .null, _, others => .cons rfl rfl (by simp; omega) others
  | .bool true, _, others => .cons rfl rfl (by simp; omega) others
  | .bool false, _, others => .cons rfl rfl (by simp; omega) others
  | .number value, ends, others => isCutInto_number value ends others
  | .string text, _, others => isCutInto_quoted text others
  | .array items, _, others => by
      have closed : IsCutInto (']' :: rest) (.closeBracket :: behind) :=
        .cons rfl rfl (Nat.le_refl _) others
      rw [compact, lexemes]
      simp only [List.cons_append, List.append_assoc, List.nil_append]
      refine .cons rfl rfl (Nat.le_refl _) ?_
      exact isCutInto_compactItems items (.inr (.inl rfl)) closed
  | .object members, _, others => by
      have closed : IsCutInto ('\x7d' :: rest) (.closeBrace :: behind) :=
        .cons rfl rfl (Nat.le_refl _) others
      rw [compact, lexemes]
      simp only [List.cons_append, List.append_assoc, List.nil_append]
      refine .cons rfl rfl (Nat.le_refl _) ?_
      exact isCutInto_compactMembers members (.inr (.inr rfl)) closed

theorem isCutInto_compactItems {c : Char} {rest : List Char} {behind : List Lexeme} :
    (items : List Value) → c = ',' ∨ c = ']' ∨ c = '\x7d' → IsCutInto (c :: rest) behind →
      IsCutInto (compactItems items ++ c :: rest) (itemLexemes items ++ behind)
  | [], _, others => others
  | [item], ending, others => isCutInto_compact item (ends_cons ending) others
  | item :: next :: items, ending, others => by
      have comma : IsCutInto (',' :: (compactItems (next :: items) ++ c :: rest))
          (.comma :: (itemLexemes (next :: items) ++ behind)) :=
        .cons rfl rfl (Nat.le_refl _) (isCutInto_compactItems (next :: items) ending others)
      rw [compactItems_cons_cons, itemLexemes]
      simp only [List.append_assoc, List.cons_append]
      exact isCutInto_compact item (ends_cons (.inl rfl)) comma

theorem isCutInto_compactMembers {c : Char} {rest : List Char} {behind : List Lexeme} :
    (members : List (String × Value)) → c = ',' ∨ c = ']' ∨ c = '\x7d' →
      IsCutInto (c :: rest) behind →
      IsCutInto (compactMembers members ++ c :: rest) (memberLexemes members ++ behind)
  | [], _, others => others
  | [(name, value)], ending, others => by
      rw [compactMembers, memberLexemes]
      simp only [List.append_assoc, List.cons_append]
      refine isCutInto_quoted name (.cons rfl rfl (Nat.le_refl _) ?_)
      exact isCutInto_compact value (ends_cons ending) others
  | (name, value) :: next :: members, ending, others => by
      have comma : IsCutInto (',' :: (compactMembers (next :: members) ++ c :: rest))
          (.comma :: (memberLexemes (next :: members) ++ behind)) :=
        .cons rfl rfl (Nat.le_refl _) (isCutInto_compactMembers (next :: members) ending others)
      rw [compactMembers_cons_cons, memberLexemes]
      simp only [List.append_assoc, List.cons_append]
      refine isCutInto_quoted name (.cons rfl rfl (Nat.le_refl _) ?_)
      exact isCutInto_compact value (ends_cons (.inl rfl)) comma

end

end Cutting

end Value

end BytePattern.Json
