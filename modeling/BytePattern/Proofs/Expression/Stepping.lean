import BytePattern.Proofs.Expression.Operand

/-!
# Reading one move at a time

The readers of expressions call one another. Here a text is read by single moves, and the calls
that wait for a term are a list. A move passes over the blanks at a place, or over one character or
one word, or over nothing when a reader is called or gives its term back. The place never moves
back, and what is left to do is used up by the moves: a move that passes over nothing takes some of
it away, and a move that calls for more of it passes over a character.
-/

namespace BytePattern.Expression

open Text Cursor

/-- The brackets around a term. Square ones load from the address inside of them. -/
inductive Bracket where
  | round
  | square
deriving DecidableEq, Repr

def Bracket.closer : Bracket → Char
  | .round => ')'
  | .square => ']'

/-- What is looked for behind the blanks at a place. -/
inductive Goal where
  | operand
  | operator (floor : Nat) (left : Term)
  | closing (bracket : Bracket) (inner : Term)
  | finish (root : Term)

/-- A call that waits for a term. -/
inductive Frame where
  /-- Goes on with the operators behind its first operand. -/
  | operators (floor : Nat)
  /-- Joins the term on the right of an operator, and goes on. -/
  | right (floor : Nat) (operator : Operator) (left : Term)
  /-- Closes the bracket around the term. -/
  | closing (bracket : Bracket)

/-- What is looked for behind the term that was waited for. -/
def Frame.goal (term : Term) : Frame → Goal
  | .operators floor => .operator floor term
  | .right floor operator left => .operator floor (.binary operator left term)
  | .closing bracket => .closing bracket term

/-- What is done next. -/
inductive Control where
  /-- A term is read, with operators that bind at least as tightly as a floor. -/
  | term (floor : Nat)
  /-- Blanks are passed over. -/
  | blanks (goal : Goal)
  /-- The character behind the blanks is looked at. -/
  | front (goal : Goal)
  /-- The name behind a dollar sign is read. A fault in it is reported at the sign. -/
  | name (column : Nat)
  /-- The suffix of a load is read, letter by letter, from its dot to its width. -/
  | dot (address : Term)
  | relative (address : Term)
  | signed (address : Term) (relative : Bool)
  | width (address : Term) (relative signed : Bool)
  /-- A term is given to the call that waits for it. -/
  | back (term : Term)
  | done (outcome : Except ExpressionError Term)

namespace Control

/-- Gives a term back, or ends with a fault. -/
def answer : Except ExpressionError Term → Control
  | .ok operand => .back operand
  | .error reason => .done (.error reason)

/-- What follows a closing bracket. -/
def behind (inner : Term) : Bracket → Control
  | .round => .back inner
  | .square => .dot inner

def IsDone (control : Control) : Prop :=
  ∃ outcome, control = .done outcome

end Control

/-- A stage of reading a text: what is done next, what waits for it, and the place. -/
structure Stage where
  control : Control
  waiting : List Frame
  cursor : Cursor

namespace Stage

/-- The term of the whole text is read first, and nothing else waits for it. -/
def initial (source : String) : Stage :=
  ⟨.term 0, [], ⟨0, source.toList⟩⟩

section Moves

variable (waiting : List Frame) (cursor : Cursor)

/-- At an opening bracket, a dollar sign or a word. -/
def meetOperand : Stage :=
  match cursor.rest with
  | [] => ⟨.done (.error .unexpectedEnd), waiting, cursor⟩
  | c :: rest =>
    let next : Cursor := ⟨cursor.column + 1, rest⟩
    if c = '(' then ⟨.term 0, .closing .round :: waiting, next⟩
    else if c = '[' then ⟨.term 0, .closing .square :: waiting, next⟩
    else if c = '$' then ⟨.name cursor.column, waiting, next⟩
    else if c.isAlphanum then
      ⟨.answer (readWord cursor.word cursor.column), waiting, cursor.skipWord⟩
    else ⟨.done (.error (.unexpected c cursor.column)), waiting, cursor⟩

/-- At an operator that is taken, or where the term on the left ends. -/
def meetOperator (floor : Nat) (left : Term) : Stage :=
  match cursor.rest with
  | [] => ⟨.back left, waiting, cursor⟩
  | c :: rest =>
    match Operator.ofChar? c with
    | none => ⟨.back left, waiting, cursor⟩
    | some operator =>
      if operator.level < floor then ⟨.back left, waiting, cursor⟩
      else
        ⟨.term (operator.level + 1), .right floor operator left :: waiting,
          ⟨cursor.column + 1, rest⟩⟩

def meetClosing (bracket : Bracket) (inner : Term) : Stage :=
  match cursor.rest with
  | [] => ⟨.done (.error .unexpectedEnd), waiting, cursor⟩
  | c :: rest =>
    if c = bracket.closer then
      ⟨.behind inner bracket, waiting, ⟨cursor.column + c.utf8Size, rest⟩⟩
    else ⟨.done (.error (.unexpected c cursor.column)), waiting, cursor⟩

def meetEnd (root : Term) : Stage :=
  match cursor.rest with
  | [] => ⟨.done (.ok root), waiting, cursor⟩
  | c :: _ => ⟨.done (.error (.unexpected c cursor.column)), waiting, cursor⟩

def meet : Goal → Stage
  | .operand => meetOperand waiting cursor
  | .operator floor left => meetOperator waiting cursor floor left
  | .closing bracket inner => meetClosing waiting cursor bracket inner
  | .finish root => meetEnd waiting cursor root

/-- Behind a dollar sign stands the name of the match address, or nothing. -/
def takeName (column : Nat) : Stage :=
  if cursor.word = [] ∨ cursor.word = "here".toList then ⟨.back .here, waiting, cursor.skipWord⟩
  else
    ⟨.done (.error (.unknownSymbol (String.ofList cursor.word) column)), waiting,
      cursor.skipWord⟩

def takeDot (address : Term) : Stage :=
  ⟨if (takeLetter '.' cursor).1 then .relative address else .back (.load .plain address), waiting,
    (takeLetter '.' cursor).2⟩

def takeRelative (address : Term) : Stage :=
  ⟨.signed address (takeLetter 'r' cursor).1, waiting, (takeLetter 'r' cursor).2⟩

def takeSigned (address : Term) (relative : Bool) : Stage :=
  ⟨.width address relative (takeLetter 's' cursor).1, waiting, (takeLetter 's' cursor).2⟩

def takeWidth (address : Term) (relative signed : Bool) : Stage :=
  match takeWidth? cursor with
  | some (width, after) => ⟨.back (.load ⟨width, signed, relative⟩ address), waiting, after⟩
  | none =>
    if relative then ⟨.back (.load ⟨.double, true, true⟩ address), waiting, cursor⟩
    else ⟨.done (.error (.invalidLoadSize cursor.column)), waiting, cursor⟩

end Moves

/-- One move. Nothing moves any more when the reading is done. -/
def step (stage : Stage) : Stage :=
  match stage with
  | ⟨.term floor, waiting, cursor⟩ => ⟨.blanks .operand, .operators floor :: waiting, cursor⟩
  | ⟨.blanks goal, waiting, cursor⟩ => ⟨.front goal, waiting, cursor.skipBlanks⟩
  | ⟨.front goal, waiting, cursor⟩ => meet waiting cursor goal
  | ⟨.name column, waiting, cursor⟩ => takeName waiting cursor column
  | ⟨.dot address, waiting, cursor⟩ => takeDot waiting cursor address
  | ⟨.relative address, waiting, cursor⟩ => takeRelative waiting cursor address
  | ⟨.signed address relative, waiting, cursor⟩ => takeSigned waiting cursor address relative
  | ⟨.width address relative signed, waiting, cursor⟩ =>
    takeWidth waiting cursor address relative signed
  | ⟨.back root, [], cursor⟩ => ⟨.blanks (.finish root), [], cursor⟩
  | ⟨.back term, frame :: waiting, cursor⟩ => ⟨.blanks (frame.goal term), waiting, cursor⟩
  | ⟨.done outcome, waiting, cursor⟩ => ⟨.done outcome, waiting, cursor⟩

end Stage

/-! ## What is left to do -/

/-- What a goal counts for in the bound on the moves that are left. -/
def Goal.due : Goal → Nat
  | .operator _ _ => 4
  | .operand | .closing _ _ | .finish _ => 1

/-- What a control counts for in the bound. It counts for more than the control that a move over
nothing leads to, with three for a call that then waits. -/
def Control.due : Control → Nat
  | .term _ => 6
  | .blanks goal => goal.due + 1
  | .front goal => goal.due
  | .name _ => 4
  | .dot _ => 7
  | .relative _ => 6
  | .signed _ _ => 5
  | .width _ _ _ => 4
  | .back _ => 3
  | .done _ => 0

theorem Goal.due_le (goal : Goal) : goal.due ≤ 4 := by
  cases goal <;> simp [Goal.due]

theorem Control.due_answer_le (answer : Except ExpressionError Term) :
    (Control.answer answer).due ≤ 3 := by
  cases answer <;> simp [Control.answer, Control.due]

theorem Control.due_behind_le (inner : Term) (bracket : Bracket) :
    (Control.behind inner bracket).due ≤ 7 := by
  cases bracket <;> simp [Control.behind, Control.due]

namespace Stage

/-- What is left to do at a stage, apart from the text behind its place. -/
def due (stage : Stage) : Nat :=
  stage.control.due + 3 * stage.waiting.length

/-- A bound on the moves that are left. A character counts for nine, which is enough for the call
that an opening bracket or an operator makes. -/
def weight (stage : Stage) : Nat :=
  9 * stage.cursor.rest.length + stage.due

/-- A move from one stage to another passes over a text, and uses up what is left to do. -/
def MovesTo (stage next : Stage) : Prop :=
  ∃ text, stage.cursor.Passes text next.cursor ∧ next.due < stage.due + 9 * text.length

section MovesTo

variable {waiting : List Frame} {cursor : Cursor} {stage next : Stage}

theorem movesTo_of_stay {control following : Control} {frames : List Frame}
    (less : following.due + 3 * frames.length < control.due + 3 * waiting.length) :
    MovesTo ⟨control, waiting, cursor⟩ ⟨following, frames, cursor⟩ :=
  ⟨[], passes_refl cursor, less⟩

theorem movesTo_of_cons {control following : Control} {frames : List Frame} {c : Char}
    {rest : List Char} (front : cursor.rest = c :: rest)
    (less : following.due + 3 * frames.length < control.due + 3 * waiting.length + 9) :
    MovesTo ⟨control, waiting, cursor⟩
      ⟨following, frames, ⟨cursor.column + c.utf8Size, rest⟩⟩ :=
  ⟨[c], ⟨front, rfl⟩, less⟩

/-- A move over a character that takes one byte. -/
theorem movesTo_of_byte {control following : Control} {frames : List Frame} {c : Char}
    {rest : List Char} (front : cursor.rest = c :: rest) (one : c.utf8Size = 1)
    (less : following.due + 3 * frames.length < control.due + 3 * waiting.length + 9) :
    MovesTo ⟨control, waiting, cursor⟩ ⟨following, frames, ⟨cursor.column + 1, rest⟩⟩ :=
  one ▸ movesTo_of_cons front less

/-- A move that passes over something or nothing, and leaves the waiting calls alone. -/
theorem movesTo_of_passes {control following : Control} {text : List Char} {stop : Cursor}
    (passes : cursor.Passes text stop) (less : following.due < control.due) :
    MovesTo ⟨control, waiting, cursor⟩ ⟨following, waiting, stop⟩ := by
  refine ⟨text, passes, ?_⟩
  simp only [due]
  omega

theorem movesTo_meetOperand : MovesTo ⟨.front .operand, waiting, cursor⟩
    (meetOperand waiting cursor) := by
  unfold meetOperand
  split
  · exact movesTo_of_stay (by simp [Control.due, Goal.due])
  · rename_i c rest front
    dsimp only
    split
    · rename_i opening
      exact movesTo_of_byte front (by rw [opening]; rfl)
        (by simp only [Control.due, Goal.due, List.length_cons]; omega)
    split
    · rename_i opening
      exact movesTo_of_byte front (by rw [opening]; rfl)
        (by simp only [Control.due, Goal.due, List.length_cons]; omega)
    split
    · rename_i dollar
      exact movesTo_of_byte front (by rw [dollar]; rfl)
        (by simp only [Control.due, Goal.due]; omega)
    split
    · rename_i member
      refine ⟨cursor.word, cursor.passes_skipWord, ?_⟩
      have letters : 0 < cursor.word.length := by
        rw [Cursor.word, front,
          List.takeWhile_cons_of_pos (Grammar.isWordCharacter_of_isAlphanum member)]
        exact Nat.succ_pos _
      have answered := Control.due_answer_le (readWord cursor.word cursor.column)
      simp only [due]
      omega
    · exact movesTo_of_stay (by simp [Control.due, Goal.due])

theorem movesTo_meetOperator {floor : Nat} {left : Term} :
    MovesTo ⟨.front (.operator floor left), waiting, cursor⟩
      (meetOperator waiting cursor floor left) := by
  unfold meetOperator
  split
  · exact movesTo_of_stay (by simp [Control.due, Goal.due])
  · rename_i c rest front
    split
    · exact movesTo_of_stay (by simp [Control.due, Goal.due])
    · rename_i operator sign
      split
      · exact movesTo_of_stay (by simp [Control.due, Goal.due])
      · exact movesTo_of_byte front (Operator.utf8Size_of_ofChar? sign)
          (by simp only [Control.due, Goal.due, List.length_cons]; omega)

theorem movesTo_meetClosing {bracket : Bracket} {inner : Term} :
    MovesTo ⟨.front (.closing bracket inner), waiting, cursor⟩
      (meetClosing waiting cursor bracket inner) := by
  unfold meetClosing
  split
  · exact movesTo_of_stay (by simp [Control.due, Goal.due])
  · rename_i c rest front
    split
    · have followed := Control.due_behind_le inner bracket
      exact movesTo_of_cons front (by omega)
    · exact movesTo_of_stay (by simp [Control.due, Goal.due])

theorem movesTo_meetEnd {root : Term} : MovesTo ⟨.front (.finish root), waiting, cursor⟩
    (meetEnd waiting cursor root) := by
  unfold meetEnd
  split <;> exact movesTo_of_stay (by simp [Control.due, Goal.due])

theorem movesTo_takeName {column : Nat} : MovesTo ⟨.name column, waiting, cursor⟩
    (takeName waiting cursor column) := by
  unfold takeName
  split <;> exact movesTo_of_passes cursor.passes_skipWord (by simp [Control.due])

theorem movesTo_takeDot {address : Term} : MovesTo ⟨.dot address, waiting, cursor⟩
    (takeDot waiting cursor address) := by
  refine movesTo_of_passes (passes_takeLetter '.' cursor) ?_
  split <;> simp [Control.due]

theorem movesTo_takeWidth {address : Term} {relative signed : Bool} :
    MovesTo ⟨.width address relative signed, waiting, cursor⟩
      (takeWidth waiting cursor address relative signed) := by
  unfold takeWidth
  split
  · rename_i taken
    exact movesTo_of_passes (takeWidth?_eq_some_iff.1 taken) (by simp [Control.due])
  · split <;> exact movesTo_of_stay (by simp [Control.due])

/-- Every move of a reading that is not done passes over a text and uses up what is left to do. -/
theorem movesTo_step (running : ¬ stage.control.IsDone) : MovesTo stage stage.step := by
  obtain ⟨control, waiting, cursor⟩ := stage
  cases control with
  | term floor =>
      exact movesTo_of_stay (by simp only [Control.due, Goal.due, List.length_cons]; omega)
  | blanks goal => exact movesTo_of_passes cursor.passes_gap (by simp [Control.due])
  | front goal =>
      cases goal with
      | operand => exact movesTo_meetOperand
      | operator floor left => exact movesTo_meetOperator
      | closing bracket inner => exact movesTo_meetClosing
      | finish root => exact movesTo_meetEnd
  | name column => exact movesTo_takeName
  | dot address => exact movesTo_takeDot
  | relative address =>
      exact movesTo_of_passes (passes_takeLetter 'r' cursor) (by simp [Control.due])
  | signed address relative =>
      exact movesTo_of_passes (passes_takeLetter 's' cursor) (by simp [Control.due])
  | width address relative signed => exact movesTo_takeWidth
  | back term =>
      cases waiting with
      | nil => exact movesTo_of_stay (by simp [Control.due, Goal.due])
      | cons frame waiting =>
          have bounded := (frame.goal term).due_le
          exact movesTo_of_stay (by simp only [Control.due, List.length_cons]; omega)
  | done outcome => exact absurd ⟨outcome, rfl⟩ running

theorem step_of_isDone (done : stage.control.IsDone) : stage.step = stage := by
  obtain ⟨control, waiting, cursor⟩ := stage
  obtain ⟨outcome, rfl⟩ := done
  rfl

/-- A move leads to the same place or to a later one. -/
theorem exists_passes_step (stage : Stage) :
    ∃ text, stage.cursor.Passes text stage.step.cursor := by
  by_cases done : stage.control.IsDone
  · rw [step_of_isDone done]
    exact ⟨[], passes_refl _⟩
  · obtain ⟨text, passes, -⟩ := movesTo_step done
    exact ⟨text, passes⟩

theorem weight_step_lt (running : ¬ stage.control.IsDone) : stage.step.weight < stage.weight := by
  obtain ⟨text, passes, less⟩ := movesTo_step running
  have shorter : stage.cursor.rest.length = text.length + stage.step.cursor.rest.length := by
    rw [passes.rest, List.length_append]
  unfold weight
  omega

end MovesTo

/-! ## Many moves -/

section Runs

variable {stage : Stage}

theorem exists_passes_iterate (count : Nat) (stage : Stage) :
    ∃ text, stage.cursor.Passes text (step^[count] stage).cursor := by
  induction count with
  | zero => exact ⟨[], passes_refl _⟩
  | succ count ih =>
      obtain ⟨text, passes⟩ := ih
      obtain ⟨more, further⟩ := exists_passes_step (step^[count] stage)
      rw [Function.iterate_succ_apply']
      exact ⟨text ++ more, passes.trans further⟩

theorem column_le_iterate (count : Nat) (stage : Stage) :
    stage.cursor.column ≤ (step^[count] stage).cursor.column := by
  obtain ⟨text, passes⟩ := exists_passes_iterate count stage
  rw [passes.column]
  exact Nat.le_add_right _ _

theorem iterate_of_isDone (done : stage.control.IsDone) (count : Nat) :
    step^[count] stage = stage :=
  Function.iterate_fixed (step_of_isDone done) count

/-- A reading is done after as many moves as its weight. -/
theorem isDone_iterate_of_weight_le {count : Nat} (enough : stage.weight ≤ count) :
    (step^[count] stage).control.IsDone := by
  induction count generalizing stage with
  | zero =>
      by_contra running
      have less : stage.step.weight < stage.weight := weight_step_lt running
      omega
  | succ count ih =>
      by_cases done : stage.control.IsDone
      · rwa [iterate_of_isDone done]
      · have less := weight_step_lt done
        rw [Function.iterate_succ_apply]
        exact ih (by omega)

/-- A reading that is done after some moves is done with the same outcome whenever it is done. -/
theorem control_iterate_eq {first second : Nat} (done : (step^[first] stage).control.IsDone)
    (done' : (step^[second] stage).control.IsDone) :
    (step^[first] stage).control = (step^[second] stage).control := by
  rw [← iterate_of_isDone done second, ← iterate_of_isDone done' first,
    ← Function.iterate_add_apply, ← Function.iterate_add_apply, Nat.add_comm]

end Runs

end Stage

end BytePattern.Expression
