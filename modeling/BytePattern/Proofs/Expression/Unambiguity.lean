import BytePattern.Proofs.Expression.Token
import Mathlib.Data.List.TakeWhile

/-!
# Every text has at most one derivation

Two derivations of the same part, each followed by something that it could not go on with, are
equal as soon as their texts go on to the same text. What a derivation could go on with is a
character of a token, or an operator of its own tier or a tighter one.
-/

namespace BytePattern.Expression

open Text Cursor Grammar

/-- How tightly the operators of a tier bind. -/
def Tier.level : Tier → Nat
  | .or => 2
  | .xor => 3
  | .and => 4
  | .sum => 5
  | .product => 6

theorem Operator.level_eq (operator : Operator) : operator.level = operator.tier.level := by
  cases operator <;> rfl

namespace Grammar

/-- An operand without operators is tighter than every tier. -/
def Part.level : Part → Nat
  | .tier own => own.level
  | .atom => 7

@[simp] theorem level_operandOf (tier : Tier) : (operandOf tier).level = tier.level + 1 := by
  cases tier <;> rfl

/-- What may follow a derivation of the part: no character of a token at once, and behind blanks
no operator that would belong to the part. -/
structure Closes (part : Part) (after : List Char) : Prop where
  bounded : Bounded after
  looser : ∀ operator : Operator,
    operator.sign ∈ (after.dropWhile isBlank).head? → operator.tier.level < part.level

section Closes

variable {part : Part} {tier : Tier} {after : List Char}

theorem dropWhile_gap {c : Char} (gap : Gap) (solid : isBlank c = false) (rest : List Char) :
    (gap.val ++ c :: rest).dropWhile isBlank = c :: rest :=
  dropWhile_run gap.property (by rintro _ ⟨⟩; exact solid)

theorem dropWhile_gap_nil (gap : Gap) : gap.val.dropWhile isBlank = [] := by
  simpa using gap.property

theorem closes_gap (gap : Gap) : Closes part gap.val where
  bounded := by simpa using bounded_gap gap bounded_nil
  looser operator front := by simp [dropWhile_gap_nil] at front

/-- A closing bracket follows whatever stands inside of it. -/
theorem closes_bracket {c : Char} (closing : c = ')' ∨ c = ']') (gap : Gap) (rest : List Char) :
    Closes part (gap.val ++ c :: rest) where
  bounded := bounded_gap gap (bounded_cons (by rcases closing with rfl | rfl <;> rfl))
  looser operator front := by
    rw [dropWhile_gap gap (by rcases closing with rfl | rfl <;> rfl)] at front
    cases front
    cases operator <;> simp [Operator.sign] at closing

theorem closes_operator (gap : Gap) {operator : Operator}
    (looser : operator.tier.level < part.level) (rest : List Char) :
    Closes part (gap.val ++ operator.sign :: rest) where
  bounded := bounded_gap gap (bounded_cons (isTokenCharacter_sign operator))
  looser other front := by
    rw [dropWhile_gap gap (isBlank_sign operator)] at front
    rwa [← Operator.sign_injective (Option.some.inj front)]

/-- What follows a whole tier follows its last operand, and so do the links of the tier. -/
theorem Closes.operand (closes : Closes (.tier tier) after) (rest : Links tier) :
    Closes (operandOf tier) (rest.text ++ after) := by
  cases rest with
  | nil =>
      refine ⟨closes.bounded, fun operator front => ?_⟩
      rw [level_operandOf]
      exact Nat.lt_succ_of_lt (closes.looser operator front)
  | cons gap operator fits operand rest =>
      simp only [Links.text, List.append_assoc, List.cons_append]
      refine closes_operator gap ?_ _
      rw [level_operandOf, fits]
      exact Nat.lt_succ_self _

/-- Behind a tier no further link of the tier follows. -/
theorem Closes.ne_links_cons (closes : Closes (.tier tier) after) (gap : Gap)
    (operator : Operator) (fits : operator.tier = tier) (operand : Derivation (operandOf tier))
    (rest : Links tier) {others : List Char} :
    after ≠ (Links.cons gap operator fits operand rest).text ++ others := by
  intro same
  simp only [Links.text, List.append_assoc, List.cons_append] at same
  have looser := closes.looser operator
  rw [same, dropWhile_gap gap (isBlank_sign operator)] at looser
  have lower := looser rfl
  rw [fits] at lower
  exact absurd lower (Nat.lt_irrefl _)

end Closes

/-- The first character of a word is neither blank nor an opening bracket. -/
theorem exists_word_text_eq_cons (word : Word) :
    ∃ c rest, word.text = c :: rest ∧ isBlank c = false ∧ c ≠ '(' ∧ c ≠ '[' := by
  cases word with
  | number numeral =>
      obtain ⟨c, rest, text, digit⟩ := numeral.exists_text_eq_cons
      refine ⟨c, rest, text, ?_, ?_, ?_⟩
      · exact isBlank_of_isTokenCharacter
          (isTokenCharacter_of_isWordCharacter (isWordCharacter_of_isHexDigit digit))
      · rintro rfl
        exact absurd digit (by decide)
      · rintro rfl
        exact absurd digit (by decide)
  | _ => exact ⟨_, _, rfl, by decide, by decide, by decide⟩

section Gap

variable {gap gap' : Gap} {c c' : Char} {rest rest' after : List Char}

theorem gap_cons_inj (solid : isBlank c = false) (solid' : isBlank c' = false)
    (same : gap.val ++ c :: rest = gap'.val ++ c' :: rest') :
    gap = gap' ∧ c = c' ∧ rest = rest' := by
  obtain ⟨gaps, others⟩ := gap_append_inj (by rintro _ ⟨⟩; exact solid)
    (by rintro _ ⟨⟩; exact solid') same
  exact ⟨gaps, List.cons.inj others⟩

theorem gap_word_inj {word word' : Word} {after' : List Char} (ends : Bounded after)
    (ends' : Bounded after')
    (same : gap.val ++ (word.text ++ after) = gap'.val ++ (word'.text ++ after')) :
    gap = gap' ∧ word = word' ∧ after = after' := by
  obtain ⟨c, rest, text, solid, -, -⟩ := exists_word_text_eq_cons word
  obtain ⟨c', rest', text', solid', -, -⟩ := exists_word_text_eq_cons word'
  obtain ⟨gaps, others⟩ := gap_append_inj (by rw [text]; rintro _ ⟨⟩; exact solid)
    (by rw [text']; rintro _ ⟨⟩; exact solid') same
  exact ⟨gaps, Word.append_inj ends ends' others⟩

theorem gap_word_ne_gap_bracket (word : Word) (opening : c = '(' ∨ c = '[') :
    gap.val ++ (word.text ++ after) ≠ gap'.val ++ c :: rest := by
  intro same
  obtain ⟨c', rest', text, solid, round, square⟩ := exists_word_text_eq_cons word
  rw [text, List.cons_append] at same
  obtain ⟨-, rfl, -⟩ := gap_cons_inj solid (by rcases opening with rfl | rfl <;> rfl) same
  exact opening.elim round square

end Gap

mutual

-- The induction is on the first derivation. The part decides which rules can have made the second
-- one, and for an operand the first character behind its blanks decides which one it was.
theorem Derivation.append_inj {part : Part} {after after' : List Char} :
    (derivation derivation' : Derivation part) → Closes part after → Closes part after' →
      derivation.text ++ after = derivation'.text ++ after' →
      derivation = derivation' ∧ after = after'
  | .group gap inner closing, other, closes, closes', same => by
      cases other <;> simp only [Derivation.text, List.append_assoc, List.cons_append,
        List.nil_append] at same
      case group gap' inner' closing' =>
        obtain ⟨rfl, -, inside⟩ := gap_cons_inj rfl rfl same
        obtain ⟨rfl, behind⟩ := inner.append_inj inner' (closes_bracket (.inl rfl) _ _)
          (closes_bracket (.inl rfl) _ _) inside
        obtain ⟨rfl, -, equal⟩ := gap_cons_inj rfl rfl behind
        exact ⟨rfl, equal⟩
      case load => exact absurd (gap_cons_inj rfl rfl same).2.1 (by decide)
      case word word' => exact absurd same.symm (gap_word_ne_gap_bracket word' (.inl rfl))
  | .load gap address closing suffix, other, closes, closes', same => by
      cases other <;> simp only [Derivation.text, List.append_assoc, List.cons_append,
        List.nil_append] at same
      case group => exact absurd (gap_cons_inj rfl rfl same).2.1 (by decide)
      case load gap' address' closing' suffix' =>
        obtain ⟨rfl, -, inside⟩ := gap_cons_inj rfl rfl same
        obtain ⟨rfl, behind⟩ := address.append_inj address' (closes_bracket (.inr rfl) _ _)
          (closes_bracket (.inr rfl) _ _) inside
        obtain ⟨rfl, -, ending⟩ := gap_cons_inj rfl rfl behind
        obtain ⟨rfl, equal⟩ := Suffix.append_inj closes.bounded closes'.bounded ending
        exact ⟨rfl, equal⟩
      case word word' => exact absurd same.symm (gap_word_ne_gap_bracket word' (.inr rfl))
  | .word gap word, other, closes, closes', same => by
      cases other <;> simp only [Derivation.text, List.append_assoc, List.cons_append] at same
      case group => exact absurd same (gap_word_ne_gap_bracket word (.inl rfl))
      case load => exact absurd same (gap_word_ne_gap_bracket word (.inr rfl))
      case word =>
        obtain ⟨rfl, rfl, equal⟩ := gap_word_inj closes.bounded closes'.bounded same
        exact ⟨rfl, equal⟩
  | .chain first rest, .chain first' rest', closes, closes', same => by
      simp only [Derivation.text, List.append_assoc] at same
      obtain ⟨rfl, behind⟩ :=
        first.append_inj first' (closes.operand rest) (closes'.operand rest') same
      obtain ⟨rfl, equal⟩ := rest.append_inj rest' closes closes' behind
      exact ⟨rfl, equal⟩

theorem Links.append_inj {tier : Tier} {after after' : List Char} :
    (links links' : Links tier) → Closes (.tier tier) after → Closes (.tier tier) after' →
      links.text ++ after = links'.text ++ after' → links = links' ∧ after = after'
  | .nil, .nil, _, _, same => ⟨rfl, same⟩
  | .nil, .cons gap operator fits operand rest, closes, _, same =>
      absurd same (closes.ne_links_cons gap operator fits operand rest)
  | .cons gap operator fits operand rest, .nil, _, closes', same =>
      absurd same.symm (closes'.ne_links_cons gap operator fits operand rest)
  | .cons gap operator fits operand rest, .cons gap' operator' fits' operand' rest',
      closes, closes', same => by
      simp only [Links.text, List.append_assoc, List.cons_append] at same
      obtain ⟨rfl, sign, behind⟩ := gap_cons_inj (isBlank_sign _) (isBlank_sign _) same
      obtain rfl := Operator.sign_injective sign
      obtain ⟨rfl, others⟩ :=
        operand.append_inj operand' (closes.operand rest) (closes'.operand rest') behind
      obtain ⟨rfl, equal⟩ := rest.append_inj rest' closes closes' others
      exact ⟨rfl, equal⟩

end

theorem Sentence.text_injective : Function.Injective Sentence.text := by
  intro sentence other same
  obtain ⟨root, trailing⟩ := sentence
  obtain ⟨root', trailing'⟩ := other
  obtain ⟨rfl, gaps⟩ := root.append_inj root' (closes_gap trailing) (closes_gap trailing') same
  rw [Subtype.ext gaps]

/-! ## Words are maximal -/

/-- Neither the last character before nor the first one behind could belong to a word between. -/
def Apart (before after : List Char) : Prop :=
  (∀ c ∈ before.getLast?, isWordCharacter c = false) ∧ ∀ c ∈ after.head?, isWordCharacter c = false

mutual

/-- Every word of a derivation is a whole run of word characters of the text around it. -/
def Derivation.WordsMaximal {part : Part} (before after : List Char) : Derivation part → Prop
  | .group gap inner closing =>
    inner.WordsMaximal (before ++ (gap.val ++ ['('])) (closing.val ++ ')' :: after)
  | .load gap address closing suffix =>
    address.WordsMaximal (before ++ (gap.val ++ ['[']))
      (closing.val ++ ']' :: (suffix.text ++ after))
  | .word gap _ => Apart (before ++ gap.val) after
  | .chain first rest =>
    first.WordsMaximal before (rest.text ++ after) ∧ rest.WordsMaximal (before ++ first.text) after

def Links.WordsMaximal {tier : Tier} (before after : List Char) : Links tier → Prop
  | .nil => True
  | .cons gap operator _ operand rest =>
    operand.WordsMaximal (before ++ (gap.val ++ [operator.sign])) (rest.text ++ after) ∧
      rest.WordsMaximal (before ++ (gap.val ++ operator.sign :: operand.text)) after

end

section WordsMaximal

variable {before : List Char}

theorem getLast?_gap (apart : ∀ c ∈ before.getLast?, isWordCharacter c = false) (gap : Gap) :
    ∀ c ∈ (before ++ gap.val).getLast?, isWordCharacter c = false := by
  intro c last
  by_cases empty : gap.val = []
  · rw [empty, List.append_nil] at last
    exact apart c last
  · rw [List.getLast?_append_of_ne_nil _ empty] at last
    exact isWordCharacter_of_outside
      (isTokenCharacter_of_isBlank (gap.property c (List.mem_of_getLast? last)))

theorem getLast?_token {c : Char} (outside : isWordCharacter c = false) (gap : Gap) :
    ∀ last ∈ (before ++ (gap.val ++ [c])).getLast?, isWordCharacter last = false := by
  intro last front
  rw [← List.append_assoc, List.getLast?_concat] at front
  cases front
  exact outside

mutual

theorem Derivation.wordsMaximal {part : Part} {before after : List Char}
    (apart : ∀ c ∈ before.getLast?, isWordCharacter c = false) :
    (derivation : Derivation part) → Closes part after → derivation.WordsMaximal before after
  | .group gap inner closing, _ =>
      inner.wordsMaximal (getLast?_token rfl gap) (closes_bracket (.inl rfl) closing after)
  | .load gap address closing _, _ =>
      address.wordsMaximal (getLast?_token rfl gap) (closes_bracket (.inr rfl) closing _)
  | .word gap _, closes => ⟨getLast?_gap apart gap, closes.bounded.isWordCharacter⟩
  | .chain first rest, closes =>
      ⟨first.wordsMaximal apart (closes.operand rest), rest.wordsMaximal closes⟩

theorem Links.wordsMaximal {tier : Tier} {before after : List Char} :
    (links : Links tier) → Closes (.tier tier) after → links.WordsMaximal before after
  | .nil, _ => trivial
  | .cons gap operator _ operand rest, closes =>
      ⟨operand.wordsMaximal (getLast?_token (by cases operator <;> rfl) gap)
        (closes.operand rest), rest.wordsMaximal closes⟩

end

end WordsMaximal

end Grammar

end BytePattern.Expression
