import BytePattern.Proofs.Expression.Lookahead

/-!
# Where the faults of expressions lie

The error that a text is refused with says what is wrong with the text. If the end was unexpected,
the text is the beginning of an expression. If a character was unexpected, what stands before it is
the beginning of an expression, but no longer together with the character. All other errors point
at a word or a suffix that is not one of the grammar.
-/

namespace BytePattern.Expression

open Text Cursor Grammar

/-- A text that is read as an expression. -/
def IsExpression (text : List Char) : Prop :=
  ∃ expression, Expression.read (String.ofList text) = .ok expression

/-- A word in front of a text does not go on in the text. -/
def MaximalWord (word after : List Char) : Prop :=
  (∀ c ∈ word, isWordCharacter c = true) ∧ ∀ c ∈ after.head?, isWordCharacter c = false

/-- What an error says about the text that is refused with it. Columns count bytes. -/
def Explains (source : List Char) : ExpressionError → Prop
  | .unexpectedEnd => ∃ continuation, IsExpression (source ++ continuation)
  | .unexpected found column =>
    ∃ before after, source = before ++ found :: after ∧ width before = column ∧
      (∃ continuation, IsExpression (before ++ continuation)) ∧
      ∀ continuation, ¬ IsExpression (before ++ found :: continuation)
  | .invalidNumber text column =>
    ∃ before after, source = before ++ (text.toList ++ after) ∧ width before = column ∧
      MaximalWord text.toList after ∧ text ≠ "" ∧ text ≠ "here" ∧
      ∀ numeral : Numeral, (Word.number numeral).text ≠ text.toList
  | .unknownSymbol name column =>
    ∃ before after, source = before ++ '$' :: (name.toList ++ after) ∧ width before = column ∧
      MaximalWord name.toList after ∧ name ≠ "" ∧ name ≠ "here"
  | .invalidLoadSize column =>
    ∃ before signed after,
      source = before ++ ']' :: '.' :: Suffix.optional 's' signed ++ after ∧
      width (before ++ ']' :: '.' :: Suffix.optional 's' signed) = column ∧
      ∀ width : Width, width.letter ∉ after.head?

section Explains

variable {before text : List Char} {place : Cursor} {source : List Char} {reason : ExpressionError}

theorem isExpression_iff :
    IsExpression text ↔ ∃ root stop, termAt 0 ⟨0, text⟩ = .ok (root, stop) ∧ stop.next? = none := by
  simp only [IsExpression, read_eq_ok_iff, String.toList_ofList]
  constructor
  · rintro ⟨expression, -, read⟩
    exact ⟨expression.root, read⟩
  · rintro ⟨root, read⟩
    exact ⟨⟨String.ofList (trim text), root⟩, rfl, read⟩

/-- A misspelt word or suffix is found in the source where the error says. -/
theorem Misspelt.explains (misspelt : Misspelt before place reason)
    (passes : Passes ⟨0, source⟩ before place) : Explains source reason := by
  have column : place.column = width before := by rw [passes.column, Nat.zero_add]
  have whole : source = before ++ place.rest := passes.rest
  cases reason with
  | unexpectedEnd => exact misspelt.elim
  | unexpected found column => exact misspelt.elim
  | invalidNumber text column' =>
      obtain ⟨rfl, word, filled, here, number⟩ := misspelt
      refine ⟨before, place.skipWord.rest, ?_, column.symm, ⟨?_, ?_⟩, filled, here, number⟩
      · rw [whole, ← word, ← place.passes_skipWord.rest]
      · exact word ▸ place.isWordCharacter_of_mem_word
      · exact place.head?_skipWord
  | unknownSymbol name column' =>
      obtain ⟨rfl, next, sign, word, filled, here⟩ := misspelt
      refine ⟨before, next.skipWord.rest, ?_, column.symm, ⟨?_, ?_⟩, filled, here⟩
      · rw [whole, sign.rest, ← word, ← next.passes_skipWord.rest]
        rfl
      · exact word ▸ next.isWordCharacter_of_mem_word
      · exact next.head?_skipWord
  | invalidLoadSize column' =>
      obtain ⟨rfl, ⟨front, signed, rfl⟩, unsized⟩ := misspelt
      exact ⟨front, signed, place.rest, whole, column.symm, unsized⟩

/-- What a term is stuck in is the beginning of an expression. -/
theorem StuckAt.explains (stuck : StuckAt (termAt 0) ⟨0, source⟩ before place reason)
    (passes : Passes ⟨0, source⟩ before place) : Explains source reason := by
  have column : place.column = width before := by rw [passes.column, Nat.zero_add]
  have whole : source = before ++ place.rest := passes.rest
  have continues : ∃ continuation, IsExpression (before ++ continuation) := by
    obtain ⟨completion, -, completes⟩ := stuck.completes
    obtain ⟨root, stop, read, ended⟩ := completes [] shut_nil
    refine ⟨completion, isExpression_iff.2 ⟨root, stop, ?_, ?_⟩⟩
    · rwa [List.append_nil] at read
    · rw [next?_eq_none_iff, skipBlanks_of_shut (ended ▸ shut_nil), ended]
  rw [stuck.reason_eq]
  cases rest : place.rest with
  | nil =>
      rw [rest, List.append_nil] at whole
      rw [Cursor.fault, rest]
      exact whole ▸ continues
  | cons c after =>
      rw [rest] at whole
      rw [Cursor.fault, rest]
      refine ⟨before, after, whole, column.symm, continues, fun continuation expression => ?_⟩
      obtain ⟨root, stop, read, -⟩ := isExpression_iff.1 expression
      have failed := stuck.fails (c :: continuation) (by rw [rest]; rfl)
      rw [Cursor.facing, read] at failed
      cases failed

/-- A character that is left over behind a whole term cannot follow it. -/
theorem explains_of_leftOver {root : Term} {stop next : Cursor} {c : Char}
    (read : termAt 0 ⟨0, source⟩ = .ok (root, stop)) (found : stop.next? = some (c, next)) :
    Explains source (.unexpected c stop.skipBlanks.column) := by
  obtain ⟨text, passes, again⟩ := (localAt_termAt 0 ⟨0, source⟩).passes read
  have blanks := passes.trans stop.passes_gap
  have front : stop.skipBlanks.rest = c :: next.rest := (passes_of_next? found).rest
  -- The term is read again from its text and blanks if nothing or the same character follows.
  have reread (other : List Char) (replaces : Replaces other (c :: next.rest)) :
      termAt 0 ⟨0, text ++ stop.gap.val ++ other⟩ =
        .ok (root, stop.facing (stop.gap.val ++ other)) := by
    rw [List.append_assoc]
    refine again _ ?_
    rw [stop.passes_gap.rest, front]
    exact replaces.append
  refine ⟨text ++ stop.gap.val, next.rest, ?_, ?_, ⟨[], ?_⟩, fun continuation expression => ?_⟩
  · rw [← front]
    exact blanks.rest
  · rw [blanks.column, Nat.zero_add]
  · refine isExpression_iff.2 ⟨root, _, reread [] (.inr shut_nil), ?_⟩
    rw [next?_eq_none_iff, stop.skipBlanks_facing [] (by simp), Cursor.facing]
  · obtain ⟨other, stop', read', ended⟩ := isExpression_iff.1 expression
    rw [reread (c :: continuation) (.inl rfl)] at read'
    cases read'
    have solid : isBlank c = false := stop.isBlank_head?_skipBlanks c (by rw [front]; rfl)
    rw [next?_eq_none_iff, stop.skipBlanks_facing _ (by rintro _ ⟨⟩; exact solid)] at ended
    cases ended

end Explains

/-- Whatever text is refused, the error explains it. -/
theorem read_error_explains {source : String} {reason : ExpressionError}
    (failed : Expression.read source = .error reason) : Explains source.toList reason := by
  rw [read_eq] at failed
  cases read : termAt 0 ⟨0, source.toList⟩ with
  | error fault =>
      rw [read] at failed
      cases failed
      obtain ⟨before, place, passes, misspelt | stuck⟩ :=
        (localAt_termAt 0 ⟨0, source.toList⟩).fails read
      · exact misspelt.explains passes
      · exact stuck.explains passes
  | ok result =>
      obtain ⟨root, stop⟩ := result
      rw [read, Except.bind] at failed
      cases found : stop.next? with
      | none => simp only [found] at failed; cases failed
      | some next =>
          simp only [found] at failed
          cases failed
          exact explains_of_leftOver read found

theorem leftOver_letter_explained :
    Expression.read "$ é" = .error (.unexpected 'é' 2) ∧
      Explains "$ é".toList (.unexpected 'é' 2) := by
  have refused : Expression.read "$ é" = .error (.unexpected 'é' 2) := by
    have named : operandAt ⟨0, "$ é".toList⟩ = .ok (.here, ⟨1, " é".toList⟩) := by
      rw [operandAt_eq]
      rfl
    rw [read_eq, termAt_eq, named, Except.bind, operatorsAt_eq]
    rfl
  exact ⟨refused, read_error_explains refused⟩

end BytePattern.Expression
