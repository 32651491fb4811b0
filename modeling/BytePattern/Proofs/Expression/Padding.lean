import BytePattern.Expression.Evaluation
import BytePattern.Proofs.Expression.Lookahead
import BytePattern.Proofs.Expression.Reading

/-!
# Blanks around an expression

An expression keeps its text without the blanks at both ends, while its tree was read off the text
with them. Blanks before a text move its columns and change nothing else, since every reader passes
over blanks first. Blanks behind it belong to the end of a sentence, since no derivation ends with a
blank. Hence a text is read as it is without such blanks, and an expression is read back from the
text that it keeps.
-/

namespace BytePattern

open Text Expression.Grammar

namespace Text

theorem trimStart_gap_append (before : Gap) (text : List Char) :
    trimStart (before.val ++ text) = trimStart text :=
  List.dropWhile_append_of_pos before.property

theorem trimEnd_append_gap (text : List Char) (after : Gap) :
    trimEnd (text ++ after.val) = trimEnd text := by
  rw [trimEnd, trimEnd, List.reverse_append, List.dropWhile_append_of_pos]
  intro c member
  exact after.property c (List.mem_reverse.1 member)

theorem trim_gap_append_gap (before after : Gap) (text : List Char) :
    trim (before.val ++ (text ++ after.val)) = trim text := by
  rw [trim, trimStart_gap_append, trim]
  by_cases blank : trimStart text = []
  · have nothing : trimStart (text ++ after.val) = [] := by
      rw [trimStart, List.dropWhile_eq_nil_iff, List.forall_mem_append]
      exact ⟨List.dropWhile_eq_nil_iff.1 blank, after.property⟩
    rw [nothing, blank]
  · have kept : trimStart (text ++ after.val) = trimStart text ++ after.val := by
      rw [trimStart, List.dropWhile_append]
      exact if_neg (mt List.isEmpty_iff.1 blank)
    rw [kept, trimEnd_append_gap]

/-- Trimming drops blanks at both ends and nothing else. -/
theorem exists_eq_gap_append_trim (text : List Char) :
    ∃ before after : Gap, text = before.val ++ (trim text ++ after.val) := by
  refine ⟨⟨text.takeWhile isBlank, fun _ => List.mem_takeWhile_imp⟩,
    ⟨((trimStart text).reverse.takeWhile isBlank).reverse, fun c member => ?_⟩, ?_⟩
  · exact List.mem_takeWhile_imp (List.mem_reverse.1 member)
  · rw [trim, trimEnd, ← List.reverse_append, List.takeWhile_append_dropWhile,
      List.reverse_reverse]
    exact List.takeWhile_append_dropWhile.symm

end Text

namespace Expression

open Cursor

/-! ## Blanks before a text -/

theorem termAt_skipBlanks (floor : Nat) (start : Cursor) :
    termAt floor start.skipBlanks = termAt floor start := by
  rw [termAt_eq, operandAt_skipBlanks, ← termAt_eq]

/-- Blanks before a text only move the column at which it starts. -/
theorem termAt_gap_append (floor column : Nat) (before : Gap) (text : List Char) :
    termAt floor ⟨column, before.val ++ text⟩ =
      termAt floor ⟨column + width before.val, text⟩ := by
  have passes : Passes ⟨column, before.val ++ text⟩ before.val
      ⟨column + width before.val, text⟩ := ⟨rfl, rfl⟩
  have skipped : skipBlanks ⟨column, before.val ++ text⟩ =
      skipBlanks ⟨column + width before.val, text⟩ :=
    (passes.trans (passes_gap _)).skipWhile_eq
      (List.forall_mem_append.2 ⟨before.property, (gap _).property⟩) (isBlank_head?_skipBlanks _)
  rw [← termAt_skipBlanks, skipped, termAt_skipBlanks]

/-! ## Blanks behind a text -/

namespace Grammar

/-- A text whose last character is not blank, or without any character. -/
def EndsSolid (text : List Char) : Prop :=
  ∀ c ∈ text.getLast?, isBlank c = false

section EndsSolid

variable {c : Char} {text rest after : List Char}

theorem endsSolid_of_token (token : ∀ c ∈ text, isTokenCharacter c = true) : EndsSolid text :=
  fun c last => isBlank_of_isTokenCharacter (token c (List.mem_of_getLast? last))

theorem EndsSolid.append (front : EndsSolid text) (back : EndsSolid after) :
    EndsSolid (text ++ after) :=
  forall_getLast?_append_iff.2 ⟨fun _ => front, back⟩

theorem EndsSolid.eq_nil_of_blank (ends : EndsSolid (text ++ after))
    (blank : ∀ c ∈ after, isBlank c = true) : after = [] := by
  rcases after.eq_nil_or_concat' with rfl | ⟨others, last, rfl⟩
  · rfl
  · have solid := (forall_getLast?_append_iff.1 ends).2 last (by simp)
    rw [blank last (by simp)] at solid
    cases solid

theorem endsSolid_append_cons (before : List Char) (solid : isBlank c = false)
    (back : EndsSolid rest) : EndsSolid (before ++ c :: rest) := by
  have front : EndsSolid (before ++ [c]) := by
    intro last final
    rw [List.getLast?_concat] at final
    cases final
    exact solid
  simpa using front.append back

end EndsSolid

mutual

-- The induction is on the derivation. Every rule ends with a token, or with a part that may be
-- empty and a part before it.
theorem Derivation.endsSolid {part : Part} :
    (derivation : Derivation part) → EndsSolid derivation.text
  | .group gap inner closing => by
      have ends : EndsSolid ((gap.val ++ '(' :: (inner.text ++ closing.val)) ++ ')' :: []) :=
        endsSolid_append_cons _ rfl (endsSolid_of_token (by simp))
      simpa [Derivation.text] using ends
  | .load gap address closing suffix => by
      have ends : EndsSolid ((gap.val ++ '[' :: (address.text ++ closing.val)) ++
          ']' :: suffix.text) :=
        endsSolid_append_cons _ rfl
          (endsSolid_of_token (List.all_eq_true.1 suffix.all_isTokenCharacter))
      simpa [Derivation.text] using ends
  | .word gap word => by
      obtain ⟨c, rest, text, solid, -⟩ := exists_word_text_eq_cons word
      rw [Derivation.text, text]
      refine endsSolid_append_cons gap.val solid (endsSolid_of_token fun c member => ?_)
      exact Word.isTokenCharacter_of_mem_text (text ▸ List.mem_cons_of_mem _ member)
  | .chain first rest => first.endsSolid.append rest.endsSolid

theorem Links.endsSolid {tier : Tier} : (links : Links tier) → EndsSolid links.text
  | .nil => endsSolid_of_token (by simp [Links.text])
  | .cons gap operator _ operand rest =>
      endsSolid_append_cons gap.val (isBlank_sign operator)
        (operand.endsSolid.append rest.endsSolid)

end

end Grammar

/-! ## Texts of terms -/

/-- A sentence is written as the text and stands for the term. -/
def StandsFor (text : List Char) (term : Term) : Prop :=
  ∃ sentence : Sentence, sentence.text = text ∧ sentence.term = term

section StandsFor

variable {text : List Char} {term : Term} {source : String} {expression : Expression}

/-- What a text stands for does not depend on the column at which it is read. -/
theorem standsFor_iff_termAt (column : Nat) : StandsFor text term ↔
    ∃ stop, termAt 0 ⟨column, text⟩ = .ok (term, stop) ∧ stop.next? = none := by
  constructor
  · rintro ⟨sentence, rfl, rfl⟩
    exact exists_termAt_of_sentence sentence column
  · rintro ⟨stop, read, ended⟩
    exact exists_sentence_of_termAt read ended

theorem read_eq_ok_iff_standsFor : Expression.read source = .ok expression ↔
    expression.source = String.ofList (trim source.toList) ∧
      StandsFor source.toList expression.root := by
  rw [standsFor_iff_termAt 0, read_eq_ok_iff]

theorem standsFor_gap_append (before : Gap) :
    StandsFor (before.val ++ text) term ↔ StandsFor text term := by
  rw [standsFor_iff_termAt 0, termAt_gap_append, ← standsFor_iff_termAt]

theorem standsFor_append_gap (after : Gap) :
    StandsFor (text ++ after.val) term ↔ StandsFor text term := by
  constructor
  · rintro ⟨⟨root, trailing⟩, whole, rfl⟩
    rcases List.append_eq_append_iff.1 whole with ⟨more, front, back⟩ | ⟨more, front, back⟩
    · have blank : ∀ c ∈ more, isBlank c = true := fun c member =>
        trailing.property c (back ▸ List.mem_append_left _ member)
      exact ⟨⟨root, more, blank⟩, front.symm, rfl⟩
    · -- What the derivation has beyond the text is blank, so it is nothing.
      obtain rfl : more = [] := by
        refine EndsSolid.eq_nil_of_blank (front ▸ root.endsSolid) fun c member => ?_
        exact after.property c (back ▸ List.mem_append_left _ member)
      rw [List.append_nil] at front
      exact ⟨⟨root, [], by simp⟩, by rw [Sentence.text, List.append_nil, front], rfl⟩
  · rintro ⟨⟨root, trailing⟩, rfl, rfl⟩
    refine ⟨⟨root, trailing.val ++ after.val,
      List.forall_mem_append.2 ⟨trailing.property, after.property⟩⟩, ?_, rfl⟩
    exact (List.append_assoc ..).symm

theorem Grammar.Derivation.standsFor {part : Part} (derivation : Derivation part) :
    StandsFor derivation.text derivation.term := by
  have looser : (Part.tier .or).level ≤ part.level := by
    rcases part with (_ | _ | _ | _ | _) | _ <;> decide
  obtain ⟨root, written, meant⟩ := derivation.exists_loosened looser
  exact ⟨⟨root, [], List.forall_mem_nil _⟩, (List.append_nil _).trans written, meant⟩

theorem standsFor_word (word : Grammar.Word) : StandsFor word.text word.term :=
  (Derivation.word ⟨[], List.forall_mem_nil _⟩ word).standsFor

theorem StandsFor.loaded (address : StandsFor text term) (suffix : Suffix) :
    StandsFor ('[' :: (text ++ ']' :: suffix.text)) (.load suffix.load term) := by
  obtain ⟨⟨root, trailing⟩, rfl, rfl⟩ := address
  have whole := (Derivation.load ⟨[], List.forall_mem_nil _⟩ root trailing suffix).standsFor
  rwa [Derivation.text, List.nil_append, ← List.append_assoc] at whole

/-- A text between blanks is read as the text alone, with the same text kept. -/
theorem read_padded_eq_ok_iff (before after : Gap) :
    Expression.read (String.ofList before.val ++ source ++ String.ofList after.val) =
      .ok expression ↔ Expression.read source = .ok expression := by
  have whole : (String.ofList before.val ++ source ++ String.ofList after.val).toList =
      before.val ++ (source.toList ++ after.val) := by
    simp [List.append_assoc]
  rw [read_eq_ok_iff_standsFor, read_eq_ok_iff_standsFor, whole, trim_gap_append_gap,
    standsFor_gap_append, standsFor_append_gap]

theorem read_source (read : Expression.read source = .ok expression) :
    Expression.read expression.source = .ok expression := by
  obtain ⟨before, after, whole⟩ := exists_eq_gap_append_trim source.toList
  have padded : source =
      String.ofList before.val ++ expression.source ++ String.ofList after.val := by
    rw [(read_eq_ok_iff_standsFor.1 read).1, ← String.toList_inj]
    simpa using whole
  rw [padded] at read
  exact (read_padded_eq_ok_iff before after).1 read

end StandsFor

/-- The text of an expression is read as the same expression, which has the same value for every
match over all regions. Blanks before and behind a text make no difference to whether it is read,
nor to the expression. -/
theorem printed_text_reads_back_and_padding_is_ignored :
    (∀ (source : String) (expression : Expression), Expression.read source = .ok expression →
      ∃ again, Expression.read expression.source = .ok again ∧
        again.source = expression.source ∧ again.root = expression.root ∧
        ∀ (here : UInt64) (regions : List Region),
          again.evaluate here regions = expression.evaluate here regions) ∧
    ∀ (before after : Gap) (source : String) (expression : Expression),
      Expression.read (String.ofList before.val ++ source ++ String.ofList after.val) =
        .ok expression ↔ Expression.read source = .ok expression := by
  constructor
  · intro source expression read
    exact ⟨expression, read_source read, rfl, rfl, fun here regions => rfl⟩
  · intro before after source expression
    exact read_padded_eq_ok_iff before after

theorem padded_relative_load_reads_back :
    Expression.read "\t[$].r\u3000" = .ok ⟨"[$].r", .load ⟨.double, true, true⟩ .here⟩ ∧
      Expression.read "[$].r" = .ok ⟨"[$].r", .load ⟨.double, true, true⟩ .here⟩ := by
  have read : Expression.read "\t[$].r\u3000" =
      .ok ⟨"[$].r", .load ⟨.double, true, true⟩ .here⟩ := by
    have bare : StandsFor "[$].r".toList (.load ⟨.double, true, true⟩ .here) :=
      (standsFor_word .dollar).loaded (.unsized false)
    have behind := (standsFor_append_gap ⟨['\u3000'], List.forall_mem_singleton.2 rfl⟩).2 bare
    have padded := (standsFor_gap_append ⟨['\t'], List.forall_mem_singleton.2 rfl⟩).2 behind
    exact read_eq_ok_iff_standsFor.2 ⟨by decide, padded⟩
  refine ⟨read, ?_⟩
  obtain ⟨⟨source, root⟩, again, rfl, rfl, -⟩ :=
    printed_text_reads_back_and_padding_is_ignored.1 _ _ read
  exact again

end Expression

end BytePattern
