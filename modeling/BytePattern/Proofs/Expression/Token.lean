import BytePattern.Proofs.Expression.Grammar
import BytePattern.Proofs.Text.Run

/-!
# The tokens of expressions

The characters of words and suffixes are never blanks, brackets or operators. Hence the text in
front of such a character determines the token that it ends with.
-/

namespace BytePattern

namespace Expression

open Text Cursor

theorem Operator.sign_injective : Function.Injective Operator.sign := by
  intro operator other same
  cases operator <;> cases other <;> first | rfl | cases same

theorem Operator.ofChar?_eq_some_iff {c : Char} {operator : Operator} :
    Operator.ofChar? c = some operator ↔ c = operator.sign := by
  constructor
  · intro found
    unfold ofChar? at found
    split at found <;> cases found <;> rfl
  · rintro rfl
    cases operator <;> rfl

/-- An operator takes one byte. -/
theorem Operator.utf8Size_of_ofChar? {c : Char} {operator : Operator}
    (found : Operator.ofChar? c = some operator) : c.utf8Size = 1 := by
  rw [ofChar?_eq_some_iff.1 found]
  cases operator <;> rfl

theorem Width.letter_injective : Function.Injective Width.letter := by
  intro width other same
  cases width <;> cases other <;> first | rfl | cases same

theorem Width.ofChar?_eq_some_iff {c : Char} {width : Width} :
    Width.ofChar? c = some width ↔ c = width.letter := by
  constructor
  · intro found
    unfold ofChar? at found
    split at found <;> cases found <;> rfl
  · rintro rfl
    cases width <;> rfl

namespace Grammar

/-- The characters that words and suffixes are made of. -/
def isTokenCharacter (c : Char) : Bool :=
  isWordCharacter c || c == '$' || c == '.'

/-- Nothing at the front could belong to a word or a suffix that ends there. -/
def Bounded (after : List Char) : Prop :=
  ∀ c ∈ after.head?, isTokenCharacter c = false

theorem isWordCharacter_of_outside {c : Char} (outside : isTokenCharacter c = false) :
    isWordCharacter c = false := by
  simp only [isTokenCharacter, Bool.or_eq_false_iff] at outside
  exact outside.1.1

theorem isTokenCharacter_of_isWordCharacter {c : Char} (word : isWordCharacter c = true) :
    isTokenCharacter c = true := by
  rw [isTokenCharacter, word]
  rfl

theorem isWordCharacter_of_isAlphanum {c : Char} (member : c.isAlphanum = true) :
    isWordCharacter c = true := by
  rw [isWordCharacter, member]
  rfl

theorem isAlphanum_iff (c : Char) : c.isAlphanum = true ↔
    ((65 ≤ c.val.toNat ∧ c.val.toNat ≤ 90) ∨ (97 ≤ c.val.toNat ∧ c.val.toNat ≤ 122)) ∨
      (48 ≤ c.val.toNat ∧ c.val.toNat ≤ 57) := by
  have ranges : c.isAlphanum =
      ((decide (65 ≤ c.val ∧ c.val ≤ 90) || (decide (97 ≤ c.val) && decide (c.val ≤ 122))) ||
        (decide (48 ≤ c.val) && decide (c.val ≤ 57))) := rfl
  simp only [ranges, Bool.or_eq_true, Bool.and_eq_true, decide_eq_true_eq, UInt32.le_iff_toNat_le]
  rfl

theorem isBlank_of_isTokenCharacter {c : Char} (token : isTokenCharacter c = true) :
    isBlank c = false := by
  simp only [isTokenCharacter, isWordCharacter, Bool.or_eq_true, beq_iff_eq, isAlphanum_iff]
    at token
  rw [← Bool.not_eq_true]
  intro blank
  rcases token with ((plain | rfl) | rfl) | rfl
  · simp only [isBlank, Bool.or_eq_true, Bool.and_eq_true, decide_eq_true_eq, beq_iff_eq] at blank
    omega
  all_goals cases blank

theorem isTokenCharacter_of_isBlank {c : Char} (blank : isBlank c = true) :
    isTokenCharacter c = false := by
  rw [← Bool.not_eq_true]
  intro token
  rw [isBlank_of_isTokenCharacter token] at blank
  cases blank

theorem isTokenCharacter_sign (operator : Operator) : isTokenCharacter operator.sign = false := by
  cases operator <;> rfl

theorem isBlank_sign (operator : Operator) : isBlank operator.sign = false := by
  cases operator <;> rfl

theorem isWordCharacter_of_isHexDigit {c : Char} (digit : IsHexDigit c) :
    isWordCharacter c = true :=
  digit.all isWordCharacter (by decide)

section Bounded

variable {c : Char} {rest after after' : List Char}

theorem bounded_nil : Bounded [] := by
  intro c front
  cases front

theorem bounded_cons (outside : isTokenCharacter c = false) : Bounded (c :: rest) := by
  intro front same
  cases same
  exact outside

theorem bounded_gap (gap : Gap) (behind : Bounded after) : Bounded (gap.val ++ after) := by
  obtain ⟨run, blank⟩ := gap
  cases run with
  | nil => exact behind
  | cons c rest => exact bounded_cons (isTokenCharacter_of_isBlank (blank c List.mem_cons_self))

theorem Bounded.isWordCharacter (bounded : Bounded after) :
    ∀ c ∈ after.head?, isWordCharacter c = false :=
  fun c front => isWordCharacter_of_outside (bounded c front)

theorem Bounded.notMem_head? (bounded : Bounded after) (token : isTokenCharacter c = true) :
    c ∉ after.head? := by
  intro front
  rw [bounded c front] at token
  cases token

/-- The blanks before another character are determined by the text. -/
theorem gap_append_inj {gap gap' : Gap} (ends : ∀ c ∈ after.head?, isBlank c = false)
    (ends' : ∀ c ∈ after'.head?, isBlank c = false) (same : gap.val ++ after = gap'.val ++ after') :
    gap = gap' ∧ after = after' := by
  obtain ⟨equal, others⟩ := run_append_inj gap.property gap'.property ends ends' same
  exact ⟨Subtype.ext equal, others⟩

end Bounded

/-! ## Words -/

theorem Mark.text_injective : Function.Injective Mark.text := by
  intro mark other same
  cases mark <;> cases other <;> first | rfl | cases same

theorem Mark.all_isWordCharacter (mark : Mark) : mark.text.all isWordCharacter = true := by
  cases mark <;> rfl

/-- What is not a mark is digits: a mark and what it is dropped from make up the whole word. -/
theorem exists_mark_append (word : List Char) :
    ∃ mark : Mark, mark.text ++ dropHexMark word = word := by
  unfold dropHexMark
  split
  · exact ⟨.lower, rfl⟩
  · exact ⟨.upper, rfl⟩
  · exact ⟨.none, rfl⟩

/-- Without the letters of the marks behind it, just the mark is dropped. -/
theorem Mark.dropHexMark_append (mark : Mark) {rest : List Char} (lower : 'x' ∉ rest)
    (upper : 'X' ∉ rest) : dropHexMark (mark.text ++ rest) = rest := by
  cases mark with
  | none =>
      rw [Mark.text, List.nil_append]
      unfold dropHexMark
      split
      · simp at lower
      · simp at upper
      · rfl
  | lower => rfl
  | upper => rfl

namespace Numeral

variable {numeral : Numeral}

theorem isWordCharacter_of_mem_text {c : Char} (member : c ∈ (Word.number numeral).text) :
    isWordCharacter c = true := by
  rw [Word.text, List.mem_append] at member
  rcases member with marked | digit
  · exact List.all_eq_true.1 numeral.mark.all_isWordCharacter c marked
  · exact isWordCharacter_of_isHexDigit (numeral.isHexDigit c digit)

/-- The first character of a number is a digit, with a mark or without. -/
theorem exists_text_eq_cons :
    ∃ c rest, (Word.number numeral).text = c :: rest ∧ IsHexDigit c := by
  cases mark : numeral.mark with
  | none =>
      obtain ⟨c, rest, equal⟩ := List.exists_cons_of_ne_nil numeral.digits_ne_nil
      refine ⟨c, rest, ?_, numeral.isHexDigit c (equal ▸ List.mem_cons_self)⟩
      rw [Word.text, mark, equal]
      rfl
  | lower => exact ⟨'0', 'x' :: numeral.digits, by rw [Word.text, mark]; rfl, by decide⟩
  | upper => exact ⟨'0', 'X' :: numeral.digits, by rw [Word.text, mark]; rfl, by decide⟩

theorem notMem_digits {c : Char} (other : ¬ IsHexDigit c) : c ∉ numeral.digits :=
  fun member => other (numeral.isHexDigit c member)

/-- The letters of the marks are no digits, so nothing is dropped but the mark. -/
theorem dropHexMark_text : dropHexMark (Word.number numeral).text = numeral.digits :=
  numeral.mark.dropHexMark_append (notMem_digits (by decide)) (notMem_digits (by decide))

theorem word64?_digits :
    word64? 16 numeral.digits = some (UInt64.ofNat (hexNumber numeral.digits)) := by
  rw [word64?_eq_some_iff (notMem_digits (by decide)),
    UInt64.toNat_ofNat_of_lt' numeral.hexNumber_lt]
  exact ⟨numeral.digits_ne_nil, numeral.isHexDigit, rfl⟩

theorem eq_of_text_eq {other : Numeral}
    (same : (Word.number numeral).text = (Word.number other).text) : numeral = other := by
  have digits : numeral.digits = other.digits := by
    rw [← dropHexMark_text, same, dropHexMark_text]
  have marks : numeral.mark = other.mark := by
    rw [Word.text, Word.text, digits] at same
    exact Mark.text_injective (List.append_cancel_right same)
  obtain ⟨⟩ := numeral
  obtain ⟨⟩ := other
  cases digits
  cases marks
  rfl

end Numeral

theorem Word.text_injective : Function.Injective Word.text := by
  have unlike (numeral : Numeral) (c : Char) (rest : List Char) (other : ¬ IsHexDigit c) :
      (Word.number numeral).text ≠ c :: rest := by
    obtain ⟨_, _, front, digit⟩ := numeral.exists_text_eq_cons
    rw [front]
    rintro ⟨⟩
    exact other digit
  intro word other same
  cases word <;> cases other
  case number.number numeral other => rw [Numeral.eq_of_text_eq same]
  case number.dollar numeral => exact absurd same (unlike numeral _ _ (by decide))
  case number.dollarHere numeral => exact absurd same (unlike numeral _ _ (by decide))
  case number.here numeral => exact absurd same (unlike numeral _ _ (by decide))
  case dollar.number numeral => exact absurd same.symm (unlike numeral _ _ (by decide))
  case dollarHere.number numeral => exact absurd same.symm (unlike numeral _ _ (by decide))
  case here.number numeral => exact absurd same.symm (unlike numeral _ _ (by decide))
  all_goals first | rfl | cases same

theorem Word.isTokenCharacter_of_mem_text {word : Word} {c : Char} (member : c ∈ word.text) :
    isTokenCharacter c = true := by
  cases word with
  | number numeral =>
      exact isTokenCharacter_of_isWordCharacter (Numeral.isWordCharacter_of_mem_text member)
  | _ => exact List.all_eq_true.1 (by decide) c member

theorem Word.append_inj {word word' : Word} {after after' : List Char} (ends : Bounded after)
    (ends' : Bounded after') (same : word.text ++ after = word'.text ++ after') :
    word = word' ∧ after = after' := by
  obtain ⟨equal, others⟩ := run_append_inj (fun _ => Word.isTokenCharacter_of_mem_text)
    (fun _ => Word.isTokenCharacter_of_mem_text) ends ends' same
  exact ⟨Word.text_injective equal, others⟩

/-! ## Suffixes -/

namespace Suffix

/-- Whether a letter was left out shows, unless the text goes on with that letter. -/
theorem optional_append_inj {letter : Char} {present present' : Bool} {rest rest' : List Char}
    (other : letter ∉ rest.head?) (other' : letter ∉ rest'.head?)
    (same : optional letter present ++ rest = optional letter present' ++ rest') :
    present = present' ∧ rest = rest' := by
  cases present <;> cases present'
  · exact ⟨rfl, same⟩
  · exact absurd (by rw [show rest = letter :: rest' from same]; rfl) other
  · exact absurd (by rw [show rest' = letter :: rest from same.symm]; rfl) other'
  · exact ⟨rfl, (List.cons.inj same).2⟩

theorem r_notMem_head?_optional (signed : Bool) (width : Width) (after : List Char) :
    'r' ∉ (optional 's' signed ++ width.letter :: after).head? := by
  cases signed <;> cases width <;> simp [optional, Width.letter]

theorem s_notMem_head?_letter (width : Width) (after : List Char) :
    's' ∉ (width.letter :: after).head? := by
  cases width <;> simp [Width.letter]

theorem sized_text_ne_unsized_text (relative signed other : Bool) (width : Width) :
    (sized relative signed width).text ≠ (unsized other).text := by
  intro same
  cases relative <;> cases signed <;> cases other <;> cases width <;> cases same

theorem text_injective : Function.Injective text := by
  intro suffix other same
  cases suffix <;> cases other
  case absent.absent => rfl
  case sized.sized relative signed width relative' signed' width' =>
    simp only [text, List.append_assoc, List.cons.injEq, true_and] at same
    obtain ⟨rfl, behind⟩ := optional_append_inj (r_notMem_head?_optional signed width [])
      (r_notMem_head?_optional signed' width' []) same
    obtain ⟨rfl, last⟩ := optional_append_inj (s_notMem_head?_letter width [])
      (s_notMem_head?_letter width' []) behind
    rw [Width.letter_injective (List.cons.inj last).1]
  case unsized.unsized signed signed' =>
    cases signed <;> cases signed' <;> first | rfl | cases same
  case sized.unsized relative signed width other =>
    exact absurd same (sized_text_ne_unsized_text relative signed other width)
  case unsized.sized other relative signed width =>
    exact absurd same.symm (sized_text_ne_unsized_text relative signed other width)
  all_goals cases same

theorem all_isTokenCharacter (suffix : Suffix) : suffix.text.all isTokenCharacter = true := by
  cases suffix with
  | absent => rfl
  | sized relative signed width => cases relative <;> cases signed <;> cases width <;> rfl
  | unsized signed => cases signed <;> rfl

theorem append_inj {suffix suffix' : Suffix} {after after' : List Char} (ends : Bounded after)
    (ends' : Bounded after') (same : suffix.text ++ after = suffix'.text ++ after') :
    suffix = suffix' ∧ after = after' := by
  obtain ⟨equal, others⟩ := run_append_inj (List.all_eq_true.1 suffix.all_isTokenCharacter)
    (List.all_eq_true.1 suffix'.all_isTokenCharacter) ends ends' same
  exact ⟨text_injective equal, others⟩

end Suffix

end Grammar

end Expression

end BytePattern
