import BytePattern.Proofs.Expression.Stepping

/-!
# Reading ends

Read by single moves, every call of a reader comes to the answer of the reader: its term is given
to the calls that wait, at the place where the reader stops, or the reading is done with the
reader's fault. A reading has only so many moves, so the answer for a whole text is there after a
number of them that its length bounds. At every stage on the way the place is one between two
characters.
-/

namespace BytePattern.Expression

open Text Cursor

/-- A place between two characters of a text or at its ends, with the rest of the text behind it. -/
structure Cursor.IsPlaceIn (cursor : Cursor) (source : String) : Prop where
  column_le : cursor.column ≤ source.utf8ByteSize
  isValid : (⟨cursor.column⟩ : String.Pos.Raw).IsValid source
  exists_before : ∃ before, source.toList = before ++ cursor.rest ∧ width before = cursor.column

theorem Cursor.Passes.isPlaceIn {source : String} {text : List Char} {stop : Cursor}
    (passes : Passes ⟨0, source.toList⟩ text stop) : stop.IsPlaceIn source := by
  have whole : source.toList = text ++ stop.rest := passes.rest
  have column : width text = stop.column := by rw [passes.column, Nat.zero_add]
  refine ⟨?_, column ▸ isValid_width whole, text, whole, column⟩
  rw [← column, ← width_toList, whole, width_append]
  exact Nat.le_add_right _ _

/-- A place that is nearer to the end of the text is at least one byte further on. -/
theorem Cursor.Passes.column_lt {text : List Char} {start stop : Cursor}
    (passes : start.Passes text stop) (shorter : stop.rest.length < start.rest.length) :
    start.column < stop.column := by
  rw [passes.rest, List.length_append] at shorter
  rw [passes.column]
  cases text with
  | nil => simp at shorter
  | cons c rest =>
      have positive := c.utf8Size_pos
      rw [width_cons]
      omega

namespace Stage

/-- A stage with the answer of a reader: its term is given to the waiting calls where the reader
stops, or the reading is done with its fault. -/
def Answers (stage : Stage) (waiting : List Frame) : Except ExpressionError (Term × Cursor) → Prop
  | .ok (term, stop) => stage = ⟨.back term, waiting, stop⟩
  | .error reason => stage.control = .done (.error reason)

/-- After some moves a reading comes to the answer of a reader. -/
def Gives (stage : Stage) (waiting : List Frame)
    (answer : Except ExpressionError (Term × Cursor)) : Prop :=
  ∃ count, (step^[count] stage).Answers waiting answer

section Gives

variable {stage : Stage} {waiting inner : List Frame}
  {answer : Except ExpressionError (Term × Cursor)}

theorem gives_back (term : Term) (waiting : List Frame) (stop : Cursor) :
    Gives ⟨.back term, waiting, stop⟩ waiting (.ok (term, stop)) :=
  ⟨0, rfl⟩

theorem gives_done (reason : ExpressionError) (waiting frames : List Frame) (cursor : Cursor) :
    Gives ⟨.done (.error reason), frames, cursor⟩ waiting (.error reason) :=
  ⟨0, rfl⟩

theorem Gives.of_iterate (count : Nat) (gives : (step^[count] stage).Gives waiting answer) :
    stage.Gives waiting answer := by
  obtain ⟨more, answers⟩ := gives
  exact ⟨more + count, by rwa [Function.iterate_add_apply]⟩

theorem Gives.of_step (gives : stage.step.Gives waiting answer) : stage.Gives waiting answer :=
  gives.of_iterate 1

/-- Blanks are passed over, and then the character behind them is met. -/
theorem Gives.of_meet {goal : Goal} {frames : List Frame} {start : Cursor}
    (gives : (meet frames start.skipBlanks goal).Gives waiting answer) :
    Gives ⟨.blanks goal, frames, start⟩ waiting answer :=
  Gives.of_iterate 2 gives

/-- One reader after the other: the second one goes on where the first one gave its term. -/
theorem Gives.bind {next : Term × Cursor → Except ExpressionError (Term × Cursor)}
    (gives : stage.Gives inner answer)
    (again : ∀ term stop, answer = .ok (term, stop) →
      Gives ⟨.back term, inner, stop⟩ waiting (next (term, stop))) :
    stage.Gives waiting (answer.bind next) := by
  cases answer with
  | error reason => exact gives
  | ok result =>
      obtain ⟨term, stop⟩ := result
      obtain ⟨count, reached⟩ := gives
      refine Gives.of_iterate count ?_
      rw [show step^[count] stage = ⟨.back term, inner, stop⟩ from reached]
      exact again term stop rfl

end Gives

section Readers

theorem gives_answer (answer : Except ExpressionError Term) (waiting : List Frame)
    (stop : Cursor) : Gives ⟨.answer answer, waiting, stop⟩ waiting
      (answer.bind fun term => .ok (term, stop)) := by
  cases answer with
  | error reason => exact gives_done reason waiting waiting stop
  | ok term => exact gives_back term waiting stop

theorem gives_name (column : Nat) (waiting : List Frame) (start : Cursor) :
    Gives ⟨.name column, waiting, start⟩ waiting
      (if start.word = [] ∨ start.word = "here".toList then .ok (.here, start.skipWord)
      else .error (.unknownSymbol (String.ofList start.word) column)) := by
  refine Gives.of_step ?_
  show Gives (takeName waiting start column) _ _
  unfold takeName
  split
  · exact gives_back .here waiting _
  · exact gives_done _ waiting waiting _

/-- The letters of a suffix are taken one move after the other. -/
theorem gives_suffix (address : Term) (waiting : List Frame) (start : Cursor) :
    Gives ⟨.dot address, waiting, start⟩ waiting
      ((suffixAt start).bind fun load => .ok (.load load.1 address, load.2)) := by
  refine Gives.of_step ?_
  rw [suffixAt_eq]
  show Gives (takeDot waiting start address) _ _
  unfold takeDot
  cases dotted : (takeLetter '.' start).1 with
  | false =>
      rw [takeLetter_snd_of_absent dotted]
      exact gives_back _ waiting start
  | true =>
      -- The two flags take a move each, whether their letters are there or not.
      refine Gives.of_iterate 3 ?_
      show Gives (takeWidth waiting _ address _ _) _ _
      rw [if_pos rfl, takeWidth]
      dsimp only
      cases taken : takeWidth? (takeLetter 's' (takeLetter 'r' (takeLetter '.' start).2).2).2 with
      | some sized => exact gives_back _ waiting sized.2
      | none =>
          cases present : (takeLetter 'r' (takeLetter '.' start).2).1 with
          | true => exact gives_back _ waiting _
          | false => exact gives_done _ waiting waiting _

/-- Behind the bracket that closes a term the reading goes on, and without it there is a fault. -/
theorem gives_closing (bracket : Bracket) (inner : Term) (waiting : List Frame) (start : Cursor)
    {next : Cursor → Except ExpressionError (Term × Cursor)}
    (again : ∀ after, Gives ⟨.behind inner bracket, waiting, after⟩ waiting (next after)) :
    Gives ⟨.blanks (.closing bracket inner), waiting, start⟩ waiting
      ((closeAt bracket.closer start).bind next) := by
  refine Gives.of_meet ?_
  rw [closeAt_eq, meet, meetClosing]
  split
  · rename_i front
    rw [next?_of_nil front]
    exact gives_done _ waiting waiting _
  · rename_i c rest front
    rw [next?_of_cons front]
    by_cases closed : c = bracket.closer
    · simp only [if_pos closed]
      exact again _
    · simp only [if_neg closed]
      exact gives_done _ waiting waiting _

end Readers

mutual

-- These recursions are those of the readers. What the caller of a reader does with its term is the
-- first of the waiting calls, so each call is followed to its answer with any others waiting.
theorem gives_term (floor : Nat) (waiting : List Frame) (start : Cursor) :
    Gives ⟨.term floor, waiting, start⟩ waiting (termAt floor start) := by
  rw [termAt_eq]
  refine Gives.of_step ((gives_operand (.operators floor :: waiting) start).bind ?_)
  intro left behind operand
  have nearer := length_lt_of_operandAt operand
  exact Gives.of_step (gives_operators floor left waiting behind)
termination_by (start.rest.length, 2)

theorem gives_operators (floor : Nat) (left : Term) (waiting : List Frame) (start : Cursor) :
    Gives ⟨.blanks (.operator floor left), waiting, start⟩ waiting
      (operatorsAt floor left start) := by
  refine Gives.of_meet ?_
  rw [operatorsAt_eq, meet, meetOperator]
  split
  · rename_i front
    rw [next?_of_nil front]
    exact gives_back left waiting _
  · rename_i c rest front
    rw [next?_of_cons front]
    have shorter := length_lt_of_skipBlanks front
    dsimp only
    cases sign : Operator.ofChar? c with
    | none => exact gives_back left waiting _
    | some operator =>
        dsimp only
        by_cases loose : operator.level < floor
        · simp only [if_pos loose]
          exact gives_back left waiting _
        · simp only [if_neg loose, Operator.utf8Size_of_ofChar? sign]
          refine (gives_term (operator.level + 1) (.right floor operator left :: waiting) _).bind ?_
          intro right behind operand
          have nearer : behind.rest.length < start.rest.length :=
            Nat.lt_trans (length_lt_of_termAt operand) shorter
          exact Gives.of_step (gives_operators floor (.binary operator left right) waiting behind)
termination_by (start.rest.length, 1)

theorem gives_operand (waiting : List Frame) (start : Cursor) :
    Gives ⟨.blanks .operand, waiting, start⟩ waiting (operandAt start) := by
  refine Gives.of_meet ?_
  rw [operandAt_eq, meet, meetOperand]
  split
  · rename_i front
    rw [next?_of_nil front]
    exact gives_done _ waiting waiting _
  · rename_i c rest front
    rw [next?_of_cons front]
    have shorter := length_lt_of_skipBlanks front
    dsimp only
    by_cases round : c = '('
    · have one : c.utf8Size = 1 := by rw [round]; rfl
      simp only [if_pos round, one]
      refine (gives_term 0 (.closing .round :: waiting) _).bind fun inner behind _ => ?_
      exact Gives.of_step (gives_closing .round inner waiting behind (gives_back inner waiting))
    by_cases square : c = '['
    · have one : c.utf8Size = 1 := by rw [square]; rfl
      simp only [if_neg round, if_pos square, one]
      refine (gives_term 0 (.closing .square :: waiting) _).bind fun address behind _ => ?_
      exact Gives.of_step
        (gives_closing .square address waiting behind (gives_suffix address waiting))
    by_cases dollar : c = '$'
    · have one : c.utf8Size = 1 := by rw [dollar]; rfl
      simp only [if_neg round, if_neg square, if_pos dollar, one]
      exact gives_name start.skipBlanks.column waiting _
    by_cases member : c.isAlphanum = true
    · simp only [if_neg round, if_neg square, if_neg dollar, if_pos member]
      exact gives_answer _ waiting _
    · simp only [if_neg round, if_neg square, if_neg dollar, if_neg member]
      exact gives_done _ waiting waiting _
termination_by (start.rest.length, 0)

end

section Whole

theorem column_lt_of_operandAt {term : Term} {start stop : Cursor}
    (read : operandAt start = .ok (term, stop)) :
    start.column < stop.column := by
  have gives := gives_operand [] start
  rw [read] at gives
  obtain ⟨count, reached⟩ := gives
  obtain ⟨text, passes⟩ := exists_passes_iterate count ⟨.blanks .operand, [], start⟩
  rw [reached] at passes
  exact passes.column_lt (length_lt_of_operandAt read)

/-- Where an operator could stand, the term on the left ends and the place is kept, or an operator
is taken. It is the byte at the place. -/
theorem step_front_operator (floor : Nat) (left : Term) (waiting : List Frame) (cursor : Cursor) :
    step ⟨.front (.operator floor left), waiting, cursor⟩ = ⟨.back left, waiting, cursor⟩ ∨
      ∃ (operator : Operator) (rest : List Char), cursor.rest = operator.sign :: rest ∧
        floor ≤ operator.level ∧
        step ⟨.front (.operator floor left), waiting, cursor⟩ =
          ⟨.term (operator.level + 1), .right floor operator left :: waiting,
            ⟨cursor.column + 1, rest⟩⟩ := by
  show meetOperator waiting cursor floor left = _ ∨ ∃ operator rest, _ ∧ _ ∧
    meetOperator waiting cursor floor left = _
  unfold meetOperator
  split
  · exact .inl rfl
  · rename_i c rest front
    cases sign : Operator.ofChar? c with
    | none => exact .inl rfl
    | some operator =>
        dsimp only
        by_cases loose : operator.level < floor
        · exact .inl (if_pos loose)
        · obtain rfl := Operator.ofChar?_eq_some_iff.1 sign
          rw [if_neg loose]
          exact .inr ⟨operator, rest, front, Nat.le_of_not_lt loose, rfl⟩

theorem weight_initial (source : String) : (initial source).weight = 9 * source.length + 6 := by
  rw [← String.length_toList]
  rfl

/-- A text is read to its outcome. -/
theorem exists_control_eq_done (source : String) :
    ∃ count, (step^[count] (initial source)).control =
      .done ((Expression.read source).map Expression.root) := by
  have gives := gives_term 0 [] ⟨0, source.toList⟩
  rw [read_eq]
  cases read : termAt 0 ⟨0, source.toList⟩ with
  | error reason =>
      rw [read] at gives
      exact gives
  | ok result =>
      obtain ⟨root, stop⟩ := result
      rw [read] at gives
      obtain ⟨count, reached⟩ := gives
      refine ⟨3 + count, ?_⟩
      rw [Function.iterate_add_apply, initial, reached]
      show (meetEnd [] stop.skipBlanks root).control = _
      unfold meetEnd
      split
      · rename_i front
        simp only [Except.bind, next?_of_nil front, Except.map]
      · rename_i c rest front
        simp only [Except.bind, next?_of_cons front, Except.map]

theorem control_eq_done_of_le {source : String} {count : Nat}
    (enough : 9 * source.length + 6 ≤ count) : (step^[count] (initial source)).control =
      .done ((Expression.read source).map Expression.root) := by
  obtain ⟨other, done⟩ := exists_control_eq_done source
  rw [← done]
  exact control_iterate_eq
    (isDone_iterate_of_weight_le (by rwa [weight_initial])) ⟨_, done⟩

end Whole

/-- Whatever the text is, and however many moves it has been read by: the place is between two
characters of the text or at one of its ends, and no later place is before it. Every call of a
reader that is come to has the answer of the reader, which the reading gives to the calls that wait
or is done with. An operand that is read takes at least one byte, and an operator that is taken is
one byte. The reading is done, with what reading the text gives, after nine moves for each character
and six more. -/
theorem reading_ends_between_characters {source : String} {count : Nat} {stage : Stage}
    (reached : step^[count] (initial source) = stage) :
    stage.cursor.IsPlaceIn source ∧
    (∀ more, stage.cursor.column ≤ (step^[more] stage).cursor.column) ∧
    (∀ floor, stage.control = .term floor →
      stage.Gives stage.waiting (termAt floor stage.cursor)) ∧
    (∀ floor left, stage.control = .blanks (.operator floor left) →
      stage.Gives stage.waiting (operatorsAt floor left stage.cursor)) ∧
    (stage.control = .blanks .operand →
      stage.Gives stage.waiting (operandAt stage.cursor) ∧
      ∀ operand stop, operandAt stage.cursor = .ok (operand, stop) →
        stage.cursor.column < stop.column) ∧
    (∀ floor left, stage.control = .front (.operator floor left) →
      stage.step = ⟨.back left, stage.waiting, stage.cursor⟩ ∨
      ∃ (operator : Operator) (rest : List Char), stage.cursor.rest = operator.sign :: rest ∧
        floor ≤ operator.level ∧
        stage.step = ⟨.term (operator.level + 1), .right floor operator left :: stage.waiting,
          ⟨stage.cursor.column + 1, rest⟩⟩) ∧
    (9 * source.length + 6 ≤ count →
      stage.control = .done ((Expression.read source).map Expression.root)) := by
  have place : stage.cursor.IsPlaceIn source := by
    obtain ⟨text, passes⟩ := exists_passes_iterate count (initial source)
    rw [reached] at passes
    exact passes.isPlaceIn
  have ends (enough : 9 * source.length + 6 ≤ count) :
      stage.control = .done ((Expression.read source).map Expression.root) := by
    rw [← reached]
    exact control_eq_done_of_le enough
  refine ⟨place, fun more => column_le_iterate more stage, ?_, ?_, ?_, ?_, ends⟩
  all_goals
    clear reached place ends
    obtain ⟨control, waiting, cursor⟩ := stage
  · rintro floor rfl
    exact gives_term floor waiting cursor
  · rintro floor left rfl
    exact gives_operators floor left waiting cursor
  · rintro rfl
    exact ⟨gives_operand waiting cursor, fun operand stop => column_lt_of_operandAt⟩
  · rintro floor left rfl
    exact step_front_operator floor left waiting cursor

/-- The blank between the operator and the letter that cannot follow it takes three bytes. -/
theorem stray_letter_behind_wide_blank :
    ∃ named stuck ended : Stage,
      (step^[1] (initial "$+\u3000é") = named ∧ named.control = .blanks .operand ∧
        ∃ stop, operandAt named.cursor = .ok (.here, stop) ∧ named.cursor.column < stop.column) ∧
      (step^[9] (initial "$+\u3000é") = stuck ∧ stuck.cursor.column = 5 ∧
        stuck.cursor.IsPlaceIn "$+\u3000é") ∧
      (step^[42] (initial "$+\u3000é") = ended ∧ 9 * "$+\u3000é".length + 6 ≤ 42 ∧
        ended.control = .done (.error (.unexpected 'é' 5))) ∧
      (Expression.read "$+\u3000é").map Expression.root = .error (.unexpected 'é' 5) := by
  have first : step^[1] (initial "$+\u3000é") =
      ⟨.blanks .operand, [.operators 0], ⟨0, "$+\u3000é".toList⟩⟩ := rfl
  have ninth : step^[9] (initial "$+\u3000é") =
      ⟨.front .operand, [.operators 6, .right 0 .add .here], ⟨5, "é".toList⟩⟩ := rfl
  have last : step^[42] (initial "$+\u3000é") =
      ⟨.done (.error (.unexpected 'é' 5)), [.operators 6, .right 0 .add .here],
        ⟨5, "é".toList⟩⟩ := rfl
  have enough : 9 * "$+\u3000é".length + 6 ≤ 42 := by decide
  have named : operandAt ⟨0, "$+\u3000é".toList⟩ = .ok (.here, ⟨1, "+\u3000é".toList⟩) := by
    rw [operandAt_eq]
    rfl
  obtain ⟨-, -, -, -, operand, -, -⟩ := reading_ends_between_characters first
  obtain ⟨place, -⟩ := reading_ends_between_characters ninth
  obtain ⟨-, -, -, -, -, -, ends⟩ := reading_ends_between_characters last
  have outcome := ends enough
  injection outcome with outcome
  exact ⟨_, _, _, ⟨first, rfl, _, named, (operand rfl).2 _ _ named⟩, ⟨ninth, rfl, place⟩,
    ⟨last, enough, rfl⟩, outcome.symm⟩

end Stage

end BytePattern.Expression
