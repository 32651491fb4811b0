import BytePattern.Proofs.Expression.Locality
import Mathlib.Data.String.Basic

/-!
# The readers are local

Every reader of expressions looks no further than at the character behind what it passes over. What
it is stuck in can be completed: a missing operand by a name in parentheses, an open bracket by the
closing one, and nothing else is ever missing.
-/

namespace BytePattern.Expression

open Text Cursor Grammar

section Readers

variable {α : Type} {floor : Nat} {left term : Term} {start next stop : Cursor} {other : List Char}

/-! ## Suffixes and closing brackets -/

theorem Grammar.Suffix.goesOnWith_bracket (suffix : Suffix) :
    ['(', ')', '[', ']'].any suffix.goesOnWith = false := by
  cases suffix with
  | unsized signed => cases signed <;> rfl
  | _ => rfl

theorem suffixAt_facing {load : Load} (read : suffixAt start = .ok (load, stop)) :
    ∃ text, start.Passes text stop ∧ ∀ other, Replaces other stop.rest →
      suffixAt (start.facing (text ++ other)) = .ok (load, stop.facing other) := by
  obtain ⟨suffix, rfl, passes, ends⟩ := passes_of_suffixAt read
  refine ⟨suffix.text, passes, fun other replaces => suffixAt_of_ends (passes.facing other) ?_⟩
  exact replaces.forall_head? suffix.goesOnWith_bracket ends

/-- A suffix is misspelt if a width is missing behind a dot and an optional sign. -/
theorem misspelt_of_suffixAt {reason : ExpressionError} (read : suffixAt start = .error reason) :
    ∃ signed place, start.Passes ('.' :: Suffix.optional 's' signed) place ∧
      reason = .invalidLoadSize place.column ∧
      ∀ width : Width, width.letter ∉ place.rest.head? := by
  have dot := passes_takeLetter '.' start
  have relative := passes_takeLetter 'r' (takeLetter '.' start).2
  have signed := passes_takeLetter 's' (takeLetter 'r' (takeLetter '.' start).2).2
  have flags := dot.trans (relative.trans signed)
  rw [suffixAt_eq] at read
  split at read
  · rename_i dotted
    dsimp only at read
    split at read
    · cases read
    · rename_i unsized
      split at read
      · cases read
      · rename_i absolute
        cases read
        rw [dotted, Bool.eq_false_iff.2 absolute] at flags
        refine ⟨_, _, flags, rfl, fun width front => ?_⟩
        have found := takeWidth?_eq_none_iff.1 unsized _ front
        rw [Width.ofChar?_eq_some_iff.2 rfl] at found
        cases found
  · cases read

theorem closeAt_of_ne {letter : Char} (missing : ∀ c ∈ start.skipBlanks.rest.head?, ¬ c = letter) :
    closeAt letter start = .error start.skipBlanks.fault := by
  rw [closeAt_eq]
  cases front : start.skipBlanks.rest with
  | nil => rw [next?_of_nil front, Cursor.fault, front]
  | cons c rest =>
      rw [next?_of_cons front, Cursor.fault, front]
      exact if_neg (missing c (by rw [front]; rfl))

theorem closeAt_skipBlanks (letter : Char) (start : Cursor) :
    closeAt letter start.skipBlanks = closeAt letter start := by
  rw [closeAt_eq, closeAt_eq, next?_skipBlanks, skipBlanks_skipBlanks]

theorem closeAt_of_rest {letter : Char} (solid : isBlank letter = false)
    (front : start.rest = letter :: other) :
    closeAt letter start = .ok ⟨start.column + letter.utf8Size, other⟩ :=
  closeAt_eq_ok_iff.2 (next?_of_rest solid front)

/-- Gives a value behind a closing bracket. -/
def closedAt (letter : Char) (value : α) : Reader α :=
  fun start => (closeAt letter start).bind fun after => .ok (value, after)

/-- Gives a load behind its closing bracket and its suffix. -/
def loadedAt (address : Term) : Reader Term :=
  fun start => (closeAt ']' start).bind fun closed =>
    (suffixAt closed).bind fun load => .ok (.load load.1 address, load.2)

theorem finishedBy_closedAt {letter : Char} (solid : isBlank letter = false) (value : α) :
    FinishedBy (closedAt letter value) [letter] := by
  intro start other _ rest
  rw [closedAt, closeAt_of_rest solid rest]
  exact ⟨value, _, rfl, rfl⟩

theorem finishedBy_loadedAt (address : Term) : FinishedBy (loadedAt address) [']'] := by
  intro start other shut rest
  have front : start.rest = ']' :: other := rest
  have bare : suffixAt ⟨start.column + ']'.utf8Size, other⟩ = .ok (Suffix.absent.load, _) :=
    suffixAt_of_ends (passes_refl _) (shut.forall_head? (by rfl))
  rw [loadedAt, closeAt_of_rest (by rfl) front, Except.bind, bare]
  exact ⟨_, _, rfl, rfl⟩

theorem localAt_closedAt {letter : Char} (bracket : letter ∈ ['(', ')', '[', ']'])
    (solid : isBlank letter = false) (value : α) (start : Cursor) :
    LocalAt (closedAt letter value) start := by
  by_cases closed : start.skipBlanks.rest.head? = some letter
  · obtain ⟨next, found⟩ := exists_next?_of_head? closed
    refine .of_next? _ found (fun found => ?_) (.done value next)
    rw [closedAt, closeAt_eq_ok_iff.2 found, Except.bind]
  · refine .of_stuck (· = letter) (fun other missing => ?_) (shut_cons bracket)
      (finishedBy_closedAt solid value) (fun other => ?_) ?_
    · rw [closedAt, closeAt_of_ne missing, Except.bind]
    · rw [closedAt, closedAt, closeAt_skipBlanks]
    · rintro c front rfl
      exact closed front

theorem localAt_loadedAt (address : Term) (start : Cursor) : LocalAt (loadedAt address) start := by
  by_cases closed : start.skipBlanks.rest.head? = some ']'
  · obtain ⟨next, found⟩ := exists_next?_of_head? closed
    obtain ⟨gap, front, again⟩ := next?_facing found
    cases suffixed : suffixAt next with
    | ok result =>
        obtain ⟨load, stop⟩ := result
        obtain ⟨letters, passes, replaced⟩ := suffixAt_facing suffixed
        have read : loadedAt address start = .ok (.load load address, stop) := by
          rw [loadedAt, closeAt_eq_ok_iff.2 found, Except.bind, suffixed, Except.bind]
        refine .of_ok read (front.trans passes) fun other replaces => ?_
        rw [loadedAt, List.append_assoc _ letters, closeAt_eq_ok_iff.2 (again _), Except.bind,
          replaced other replaces, Except.bind]
    | error reason =>
        obtain ⟨signed, place, passes, rfl, unsized⟩ := misspelt_of_suffixAt suffixed
        have read : loadedAt address start = .error (.invalidLoadSize place.column) := by
          rw [loadedAt, closeAt_eq_ok_iff.2 found, Except.bind, suffixed, Except.bind]
        refine .of_error read (front.trans passes) (.inl ⟨rfl, ⟨gap.val, signed, ?_⟩, unsized⟩)
        rw [List.append_assoc, List.singleton_append]
  · refine .of_stuck (· = ']') (fun other missing => ?_) (shut_cons (by simp))
      (finishedBy_loadedAt address) (fun other => ?_) ?_
    · rw [loadedAt, closeAt_of_ne missing, Except.bind]
    · rw [loadedAt, loadedAt, closeAt_skipBlanks]
    · rintro c front rfl
      exact closed front

/-! ## Words -/

theorem Cursor.word_facing (start : Cursor) (ends : ∀ c ∈ other.head?, isWordCharacter c = false) :
    (start.facing (start.word ++ other)).word = start.word ∧
      (start.facing (start.word ++ other)).skipWord = start.skipWord.facing other :=
  (start.passes_skipWord.facing other).word_eq start.isWordCharacter_of_mem_word ends

theorem localAt_operandAt_of_dollar (found : start.next? = some ('$', next)) :
    LocalAt operandAt start := by
  have read := operandAt_of_dollarSign found
  by_cases known : next.word = [] ∨ next.word = "here".toList
  · obtain ⟨gap, front, again⟩ := next?_facing found
    rw [if_pos known] at read
    refine .of_ok read (front.trans next.passes_skipWord) fun other replaces => ?_
    obtain ⟨word, ended⟩ :=
      next.word_facing (replaces.forall_head? (by rfl) next.head?_skipWord)
    rw [List.append_assoc _ next.word, operandAt_of_dollarSign (again _), word, ended,
      if_pos known]
  · rw [if_neg known] at read
    refine .of_error read start.passes_gap
      (.inl ⟨rfl, next, passes_of_next? found, String.toList_ofList.symm, ?_, ?_⟩)
    · exact fun empty => known (.inl (String.ofList_eq.1 empty))
    · exact fun here => known (.inr (String.ofList_eq.1 here))

/-- A word that is not read is neither the name of the match address nor a number. -/
theorem misspelt_of_readWord {word : List Char} {column : Nat} {reason : ExpressionError}
    (all : ∀ c ∈ word, isWordCharacter c = true) (read : readWord word column = .error reason) :
    reason = .invalidNumber (String.ofList word) column ∧ word ≠ "here".toList ∧
      ∀ numeral : Numeral, (Word.number numeral).text ≠ word := by
  have unnamed (named : Word) : named.text ≠ word := by
    intro text
    rw [(readWord_eq_ok_iff all).2 ⟨named, text, rfl⟩] at read
    cases read
  refine ⟨?_, fun here => unnamed .here here.symm, fun numeral => unnamed (.number numeral)⟩
  unfold readWord at read
  split at read
  · cases read
  · split at read <;> cases read
    rfl

theorem localAt_operandAt_of_alphanum {c : Char} (found : start.next? = some (c, next))
    (member : c.isAlphanum = true) : LocalAt operandAt start := by
  have read := operandAt_of_alphanum found member
  have letter := isWordCharacter_of_isAlphanum member
  have front := (passes_of_next? found).rest
  have word : start.skipBlanks.word = c :: next.rest.takeWhile isWordCharacter := by
    rw [Cursor.word, front]
    exact List.takeWhile_cons_of_pos letter
  have solid := isBlank_of_isTokenCharacter (isTokenCharacter_of_isWordCharacter letter)
  cases named : readWord start.skipBlanks.word start.skipBlanks.column with
  | ok operand =>
      rw [named, Except.bind] at read
      have whole := start.passes_gap.trans start.skipBlanks.passes_skipWord
      refine .of_ok read whole fun other replaces => ?_
      have skipped := start.skipBlanks_facing (start.skipBlanks.word ++ other)
        (by rw [word]; rintro _ ⟨⟩; exact solid)
      obtain ⟨same, ended⟩ := start.skipBlanks.word_facing
        (replaces.forall_head? (by rfl) start.skipBlanks.head?_skipWord)
      have first : (start.facing (start.gap.val ++ (start.skipBlanks.word ++ other))
          ).skipBlanks.rest.head? = some c := by
        rw [skipped, word]
        rfl
      obtain ⟨behind, again⟩ := exists_next?_of_head? first
      rw [List.append_assoc, operandAt_of_alphanum again member, skipped, same, ended]
      exact bind_eq_ok_iff.2 ⟨operand, named, rfl⟩
  | error reason =>
      obtain ⟨rfl, here, number⟩ :=
        misspelt_of_readWord start.skipBlanks.isWordCharacter_of_mem_word named
      rw [named, Except.bind] at read
      refine .of_error read start.passes_gap (.inl ⟨rfl, String.toList_ofList.symm, ?_, ?_, ?_⟩)
      · rw [ne_eq, String.ofList_eq, word]
        exact List.cons_ne_nil _ _
      · exact fun same => here (String.ofList_eq.1 same)
      · rwa [String.toList_ofList]

/-! ## Operands, operators and terms -/

/-- What an operand can start with. -/
def StartsOperand (c : Char) : Prop :=
  c = '(' ∨ c = '[' ∨ c = '$' ∨ c.isAlphanum = true

theorem operandAt_of_not_startsOperand
    (unwanted : ∀ c ∈ start.skipBlanks.rest.head?, ¬ StartsOperand c) :
    operandAt start = .error start.skipBlanks.fault := by
  rw [operandAt_eq]
  cases front : start.skipBlanks.rest with
  | nil => rw [next?_of_nil front, Cursor.fault, front]
  | cons c rest =>
      have other := unwanted c (by rw [front]; rfl)
      simp only [StartsOperand, not_or] at other
      rw [next?_of_cons front, Cursor.fault, front]
      simp only [other, Bool.false_eq_true, if_false]

theorem operandAt_skipBlanks (start : Cursor) : operandAt start.skipBlanks = operandAt start := by
  rw [operandAt_eq, operandAt_eq, next?_skipBlanks, skipBlanks_skipBlanks]

/-- Whether a reader with a floor goes on with a character. -/
def goesOnAbove (floor : Nat) (c : Char) : Bool :=
  (Operator.ofChar? c).any fun operator => floor ≤ operator.level

theorem stopsAt_iff :
    StopsAt floor start ↔ ∀ c ∈ start.skipBlanks.rest.head?, goesOnAbove floor c = false := by
  constructor
  · intro stops c front
    obtain ⟨next, found⟩ := exists_next?_of_head? front
    rw [goesOnAbove, Option.any_eq_false]
    intro operator sign
    rw [Operator.ofChar?_eq_some_iff] at sign
    have := stops operator next (sign ▸ found)
    simpa using this
  · intro ends operator next found
    have loose := ends operator.sign (by rw [(passes_of_next? found).rest]; rfl)
    rw [goesOnAbove, Operator.ofChar?_eq_some_iff.2 rfl] at loose
    simpa using loose

theorem goesOnAbove_bracket (floor : Nat) :
    ['(', ')', '[', ']'].any (goesOnAbove floor) = false :=
  rfl

theorem skipBlanks_of_shut (shut : Shut start.rest) : start.skipBlanks = start :=
  skipWhile_of_stopped (shut.forall_head? (by decide))

theorem stopsAt_of_shut (shut : Shut start.rest) : StopsAt floor start := by
  rw [stopsAt_iff, skipBlanks_of_shut shut]
  exact shut.forall_head? (goesOnAbove_bracket floor)

theorem finishedBy_operatorsAt (floor : Nat) (left : Term) :
    FinishedBy (operatorsAt floor left) [] := by
  intro start other shut rest
  rw [← show start.rest = other from rest] at shut ⊢
  refine ⟨left, start, ?_, rfl⟩
  rw [operatorsAt_of_stopsAt (stopsAt_of_shut shut), skipBlanks_of_shut shut]

/-- A name in parentheses is an operand, and it starts with a bracket. -/
theorem finishedBy_operandAt : FinishedBy operandAt ['(', '$', ')'] := by
  intro start other _ rest
  let inside : Cursor := ⟨start.column + '('.utf8Size, '$' :: ')' :: other⟩
  let behind : Cursor := ⟨inside.column + '$'.utf8Size, ')' :: other⟩
  have opening : start.next? = some ('(', inside) := next?_of_rest (by rfl) rest
  have closing : behind.next? = some (')', ⟨behind.column + ')'.utf8Size, other⟩) :=
    next?_of_rest (by rfl) rfl
  have sign : inside.Passes ((⟨[], by simp⟩ : Gap).val ++ '$' :: []) behind := ⟨rfl, rfl⟩
  have read : termAt 0 inside = .ok (.here, behind.skipBlanks) := by
    rw [termAt_eq, operandAt_of_dollar sign (bounded_cons rfl) (.inl rfl), Except.bind,
      operatorsAt_of_stopsAt (stopsAt_of_shut (shut_cons (by simp)))]
  exact ⟨_, _, operandAt_of_parenthesis opening read (by rw [next?_skipBlanks, closing]), rfl⟩

theorem localAt_operatorsAt_of_stopsAt (stops : StopsAt floor start) (left : Term) :
    LocalAt (operatorsAt floor left) start := by
  refine .of_ok (operatorsAt_of_stopsAt stops) start.passes_gap fun other replaces => ?_
  have skipped := start.skipBlanks_facing other
    (replaces.forall_head? (by decide) start.isBlank_head?_skipBlanks)
  have again : StopsAt floor (start.facing (start.gap.val ++ other)) := by
    rw [stopsAt_iff, skipped]
    exact replaces.forall_head? (goesOnAbove_bracket floor) (stopsAt_iff.1 stops)
  rw [operatorsAt_of_stopsAt again, skipped]

end Readers

mutual

-- These recursions are those of the readers. Every reader is put together from readers that are
-- local, and what the later ones are finished by starts with a bracket or is nothing.
theorem localAt_termAt (floor : Nat) (start : Cursor) : LocalAt (termAt floor) start := by
  rw [show termAt floor = _ from funext (termAt_eq floor)]
  refine (localAt_operandAt start).bind shut_nil (fun left => finishedBy_operatorsAt floor left) ?_
  intro left behind operand
  have nearer := length_lt_of_operandAt operand
  exact localAt_operatorsAt floor left behind
termination_by (start.rest.length, 2)

theorem localAt_operatorsAt (floor : Nat) (left : Term) (start : Cursor) :
    LocalAt (operatorsAt floor left) start := by
  by_cases stops : StopsAt floor start
  · exact localAt_operatorsAt_of_stopsAt stops left
  · simp only [StopsAt, not_forall, Nat.not_lt] at stops
    obtain ⟨operator, next, found, tight⟩ := stops
    have after := length_lt_of_next? found
    refine .of_next? _ found (fun again => operatorsAt_of_next? again tight) ?_
    refine (localAt_termAt (operator.level + 1) next).bind shut_nil
      (fun right => finishedBy_operatorsAt floor (.binary operator left right)) ?_
    intro right behind operand
    have farther := length_lt_of_termAt operand
    exact localAt_operatorsAt floor (.binary operator left right) behind
termination_by (start.rest.length, 1)

theorem localAt_operandAt (start : Cursor) : LocalAt operandAt start := by
  by_cases starts : ∃ c ∈ start.skipBlanks.rest.head?, StartsOperand c
  · obtain ⟨c, front, starts⟩ := starts
    obtain ⟨next, found⟩ := exists_next?_of_head? front
    have shorter := length_lt_of_next? found
    rcases starts with rfl | rfl | rfl | member
    · refine .of_next? (fun next =>
        (termAt 0 next).bind fun inner => closedAt ')' inner.1 inner.2) found ?_ ?_
      · intro other behind again
        rw [operandAt_eq, again]
        rfl
      · exact (localAt_termAt 0 next).bind (shut_cons (by simp))
          (fun inner => finishedBy_closedAt (by rfl) inner)
          fun _ => localAt_closedAt (by simp) (by rfl) _ _
    · refine .of_next? (fun next =>
        (termAt 0 next).bind fun inner => loadedAt inner.1 inner.2) found ?_ ?_
      · intro other behind again
        rw [operandAt_eq, again]
        rfl
      · exact (localAt_termAt 0 next).bind (shut_cons (by simp)) finishedBy_loadedAt
          fun _ => localAt_loadedAt _ _
    · exact localAt_operandAt_of_dollar found
    · exact localAt_operandAt_of_alphanum found member
  · simp only [not_exists, not_and] at starts
    exact .of_stuck StartsOperand (fun _ => operandAt_of_not_startsOperand) (shut_cons (by simp))
      finishedBy_operandAt operandAt_skipBlanks starts
termination_by (start.rest.length, 0)

end

end BytePattern.Expression
