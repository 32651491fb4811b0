import BytePattern.Expression.Reader
import BytePattern.Proofs.Expression.Token
import Mathlib.Data.List.TakeWhile

/-!
# What the readers pass over

Reading leads from one place in the text to a later one, over the text between the two. The
readers carry proofs that they move forward; here these are left out, and every reader is described
by the character that it meets next and by what it does with it.
-/

namespace BytePattern.Expression

open Text Grammar

namespace Cursor

/-- The text between two places. -/
structure Passes (start : Cursor) (text : List Char) (stop : Cursor) : Prop where
  rest : start.rest = text ++ stop.rest
  column : stop.column = start.column + width text

section Passes

variable {start middle stop stop' : Cursor} {text first second run : List Char}
  {test : Char → Bool} {c : Char}

theorem Passes.trans (front : start.Passes first middle) (behind : middle.Passes second stop) :
    start.Passes (first ++ second) stop where
  rest := by rw [front.rest, behind.rest, List.append_assoc]
  column := by rw [behind.column, front.column, width_append, Nat.add_assoc]

theorem Passes.split (whole : start.Passes (first ++ second) stop) :
    ∃ middle, start.Passes first middle ∧ middle.Passes second stop := by
  refine ⟨⟨start.column + width first, second ++ stop.rest⟩, ⟨?_, rfl⟩, ⟨rfl, ?_⟩⟩
  · rw [whole.rest, List.append_assoc]
  · rw [whole.column, width_append, Nat.add_assoc]

theorem passes_refl (start : Cursor) : start.Passes [] start :=
  ⟨rfl, rfl⟩

theorem Passes.stop_unique (passes : start.Passes text stop) (passes' : start.Passes text stop') :
    stop = stop' := by
  obtain ⟨column, rest⟩ := stop
  obtain ⟨column', rest'⟩ := stop'
  obtain rfl := List.append_cancel_left (passes.rest.symm.trans passes'.rest)
  obtain rfl := passes.column.trans passes'.column.symm
  rfl

theorem passes_skipWhile (test : Char → Bool) (start : Cursor) :
    start.Passes (start.rest.takeWhile test) (start.skipWhile test) :=
  ⟨List.takeWhile_append_dropWhile.symm, rfl⟩

theorem Passes.skipWhile_eq (passes : start.Passes run stop) (all : ∀ c ∈ run, test c = true)
    (ends : ∀ c ∈ stop.rest.head?, test c = false) : start.skipWhile test = stop := by
  have taken := passes_skipWhile test start
  rw [passes.rest, takeWhile_run all ends] at taken
  exact taken.stop_unique passes

theorem passes_cons {column : Nat} {rest : List Char} :
    Passes ⟨column, c :: rest⟩ [c] ⟨column + c.utf8Size, rest⟩ :=
  ⟨rfl, rfl⟩

theorem skipWhile_of_stopped (ends : ∀ c ∈ start.rest.head?, test c = false) :
    start.skipWhile test = start :=
  (passes_refl start).skipWhile_eq (fun _ member => absurd member List.not_mem_nil) ends

theorem head?_skipWhile (test : Char → Bool) (start : Cursor) :
    ∀ c ∈ (start.skipWhile test).rest.head?, test c = false := by
  intro c front
  have stopped := List.head?_dropWhile_not test start.rest
  rw [show (start.rest.dropWhile test).head? = some c from front] at stopped
  exact stopped

theorem isBlank_head?_skipBlanks (start : Cursor) :
    ∀ c ∈ start.skipBlanks.rest.head?, isBlank c = false :=
  head?_skipWhile isBlank start

theorem skipBlanks_skipBlanks (start : Cursor) : start.skipBlanks.skipBlanks = start.skipBlanks :=
  skipWhile_of_stopped start.isBlank_head?_skipBlanks

/-- The blanks at a place. -/
def gap (start : Cursor) : Gap :=
  ⟨start.rest.takeWhile isBlank, fun _ => List.mem_takeWhile_imp⟩

theorem passes_gap (start : Cursor) : start.Passes start.gap.val start.skipBlanks :=
  passes_skipWhile isBlank start

end Passes

/-- The next character that is not blank, and the place behind it. -/
def next? (cursor : Cursor) : Option (Char × Cursor) :=
  match cursor.skipBlanks.rest with
  | [] => none
  | c :: rest => some (c, ⟨cursor.skipBlanks.column + c.utf8Size, rest⟩)

section Next

variable {start stop : Cursor} {c : Char} {rest : List Char}

theorem next?_of_nil (front : start.skipBlanks.rest = []) : start.next? = none := by
  rw [next?, front]

theorem next?_of_cons (front : start.skipBlanks.rest = c :: rest) :
    start.next? = some (c, ⟨start.skipBlanks.column + c.utf8Size, rest⟩) := by
  rw [next?, front]

theorem next?_eq_none_iff : start.next? = none ↔ start.skipBlanks.rest = [] := by
  cases front : start.skipBlanks.rest with
  | nil => simp [next?_of_nil front]
  | cons c rest => simp [next?_of_cons front]

@[simp] theorem next?_skipBlanks (start : Cursor) : start.skipBlanks.next? = start.next? := by
  rw [next?, skipBlanks_skipBlanks, next?]

/-- What comes next is the same before and behind blanks. -/
theorem next?_congr {other : Cursor} (same : start.skipBlanks = other.skipBlanks) :
    start.next? = other.next? := by
  rw [← next?_skipBlanks, same, next?_skipBlanks]

/-- The blanks before the next character. -/
theorem next?_eq_some_iff : start.next? = some (c, stop) ↔
    isBlank c = false ∧ ∃ gap : Gap, start.Passes (gap.val ++ [c]) stop := by
  constructor
  · intro found
    cases front : start.skipBlanks.rest with
    | nil => rw [next?_of_nil front] at found; cases found
    | cons first rest =>
        rw [next?_of_cons front] at found
        cases found
        have solid : c ∈ start.skipBlanks.rest.head? := by rw [front]; rfl
        exact ⟨start.isBlank_head?_skipBlanks c solid, start.gap,
          start.passes_gap.trans ⟨front, rfl⟩⟩
  · rintro ⟨solid, gap, passes⟩
    obtain ⟨middle, blanks, last⟩ := passes.split
    have skipped : start.skipBlanks = middle :=
      blanks.skipWhile_eq gap.property (by rw [last.rest]; rintro _ ⟨⟩; exact solid)
    rw [next?_of_cons (skipped ▸ last.rest), skipped]
    obtain ⟨column, rest⟩ := stop
    cases last.column
    rfl

theorem passes_of_next? (found : start.next? = some (c, stop)) :
    start.skipBlanks.Passes [c] stop := by
  cases front : start.skipBlanks.rest with
  | nil =>
      rw [next?_of_nil front] at found
      cases found
  | cons first rest =>
      rw [next?_of_cons front] at found
      cases found
      exact ⟨front, rfl⟩

theorem exists_next?_of_head? (front : start.skipBlanks.rest.head? = some c) :
    ∃ stop, start.next? = some (c, stop) := by
  cases rest : start.skipBlanks.rest with
  | nil =>
      rw [rest] at front
      cases front
  | cons first others =>
      rw [rest] at front
      cases front
      exact ⟨_, next?_of_cons rest⟩

theorem next?_of_rest (solid : isBlank c = false) (front : start.rest = c :: rest) :
    start.next? = some (c, ⟨start.column + c.utf8Size, rest⟩) :=
  next?_eq_some_iff.2 ⟨solid, ⟨[], by simp⟩, ⟨front, rfl⟩⟩

end Next

end Cursor

/-! ## The readers without their proofs of moving forward -/

def termAt (floor : Nat) (start : Cursor) : Except ExpressionError (Term × Cursor) :=
  (readTerm floor start).map Subtype.val

def operatorsAt (floor : Nat) (left : Term) (start : Cursor) :
    Except ExpressionError (Term × Cursor) :=
  (readOperators floor left start).map Subtype.val

def operandAt (start : Cursor) : Except ExpressionError (Term × Cursor) :=
  (readOperand start).map Subtype.val

def suffixAt (start : Cursor) : Except ExpressionError (Load × Cursor) :=
  (readSuffix start).map Subtype.val

theorem map_eq_ok_iff {α β : Type} {result : Except ExpressionError α} {f : α → β} {value : β} :
    result.map f = .ok value ↔ ∃ inner, result = .ok inner ∧ f inner = value := by
  cases result <;> simp [Except.map]

theorem bind_eq_ok_iff {α β : Type} {result : Except ExpressionError α}
    {next : α → Except ExpressionError β} {value : β} :
    result.bind next = .ok value ↔ ∃ inner, result = .ok inner ∧ next inner = .ok value := by
  cases result <;> simp [Except.bind]

section Readers

variable {floor : Nat} {left term : Term} {start stop : Cursor}

theorem termAt_eq (floor : Nat) (start : Cursor) : termAt floor start =
    (operandAt start).bind fun operand => operatorsAt floor operand.1 operand.2 := by
  unfold termAt
  rw [readTerm, operandAt]
  cases readOperand start with
  | error reason => rfl
  | ok operand =>
      obtain ⟨⟨left, behind⟩, shorter⟩ := operand
      simp only [Except.map, Except.bind, operatorsAt]
      cases readOperators floor left behind with
      | error reason => rfl
      | ok result => rfl

theorem operatorsAt_eq (floor : Nat) (left : Term) (start : Cursor) :
    operatorsAt floor left start =
      match start.next? with
      | none => .ok (left, start.skipBlanks)
      | some (c, next) =>
        match Operator.ofChar? c with
        | none => .ok (left, start.skipBlanks)
        | some operator =>
          if operator.level < floor then .ok (left, start.skipBlanks)
          else (termAt (operator.level + 1) next).bind fun operand =>
            operatorsAt floor (.binary operator left operand.1) operand.2 := by
  rw [operatorsAt, readOperators]
  split
  · rename_i front
    rw [Cursor.next?_of_nil front]
    rfl
  · rename_i c rest front
    rw [Cursor.next?_of_cons front]
    split
    · rename_i other
      simp only [other]
      rfl
    · rename_i operator sign
      simp only [sign]
      split
      · rfl
      · rw [termAt, Operator.utf8Size_of_ofChar? sign]
        cases readTerm (operator.level + 1) ⟨start.skipBlanks.column + 1, rest⟩ with
        | error reason => rfl
        | ok operand =>
            obtain ⟨⟨right, behind⟩, nearer⟩ := operand
            simp only [Except.map, Except.bind, operatorsAt]
            cases readOperators floor (.binary operator left right) behind with
            | error reason => rfl
            | ok result => rfl

def closeAt (letter : Char) (start : Cursor) : Except ExpressionError Cursor :=
  (expect letter start).map fun result => result.val.2

theorem closeAt_eq (letter : Char) (start : Cursor) :
    closeAt letter start =
      match start.next? with
      | none => .error .unexpectedEnd
      | some (c, next) =>
        if c = letter then .ok next else .error (.unexpected c start.skipBlanks.column) := by
  rw [closeAt, expect]
  split
  · rename_i c rest front
    rw [Cursor.next?_of_cons front]
    split <;> rename_i equal <;> simp [Except.map, equal]
  · rename_i front
    rw [Cursor.next?_of_nil front]
    rfl

theorem closeAt_eq_ok_iff {letter : Char} :
    closeAt letter start = .ok stop ↔ start.next? = some (letter, stop) := by
  rw [closeAt_eq]
  cases start.next? with
  | none => simp
  | some found =>
      obtain ⟨c, next⟩ := found
      by_cases equal : c = letter <;> simp [equal]

theorem operandAt_eq (start : Cursor) :
    operandAt start =
      match start.next? with
      | none => .error .unexpectedEnd
      | some (c, next) =>
        if c = '(' then
          (termAt 0 next).bind fun inner =>
            (closeAt ')' inner.2).bind fun after => .ok (inner.1, after)
        else if c = '[' then
          (termAt 0 next).bind fun inner =>
            (closeAt ']' inner.2).bind fun closed =>
              (suffixAt closed).bind fun load => .ok (.load load.1 inner.1, load.2)
        else if c = '$' then
          if next.word = [] ∨ next.word = "here".toList then .ok (.here, next.skipWord)
          else .error (.unknownSymbol (String.ofList next.word) start.skipBlanks.column)
        else if c.isAlphanum then
          (readWord start.skipBlanks.word start.skipBlanks.column).bind fun operand =>
            .ok (operand, start.skipBlanks.skipWord)
        else .error (.unexpected c start.skipBlanks.column) := by
  rw [operandAt, readOperand]
  split
  · rename_i front
    rw [Cursor.next?_of_nil front]
    rfl
  · rename_i c rest front
    rw [Cursor.next?_of_cons front]
    simp only [termAt, closeAt, suffixAt]
    split
    · rename_i opening
      have one : c.utf8Size = 1 := by rw [opening]; rfl
      rw [one]
      cases readTerm 0 ⟨start.skipBlanks.column + 1, rest⟩ with
      | error reason => rfl
      | ok inner =>
          obtain ⟨⟨inner, behind⟩, nearer⟩ := inner
          simp only [Except.map, Except.bind]
          cases expect ')' behind <;> rfl
    · split
      · rename_i opening
        have one : c.utf8Size = 1 := by rw [opening]; rfl
        rw [one]
        cases readTerm 0 ⟨start.skipBlanks.column + 1, rest⟩ with
        | error reason => rfl
        | ok inner =>
            obtain ⟨⟨inner, behind⟩, nearer⟩ := inner
            simp only [Except.map, Except.bind]
            cases expect ']' behind with
            | error reason => rfl
            | ok closed =>
                obtain ⟨⟨⟨⟩, closed⟩, notLonger⟩ := closed
                dsimp only
                cases readSuffix closed <;> rfl
      · split
        · rename_i dollar
          have one : c.utf8Size = 1 := by rw [dollar]; rfl
          rw [one]
          split <;> rfl
        · split
          · cases readWord start.skipBlanks.word start.skipBlanks.column <;> rfl
          · rfl

/-- A term goes on unless what comes next is an operator of a lower level, or none. -/
def StopsAt (floor : Nat) (start : Cursor) : Prop :=
  ∀ (operator : Operator) (next : Cursor),
    start.next? = some (operator.sign, next) → operator.level < floor

theorem operatorsAt_of_stopsAt (stops : StopsAt floor start) :
    operatorsAt floor left start = .ok (left, start.skipBlanks) := by
  rw [operatorsAt_eq]
  split
  · rfl
  · rename_i c next found
    split
    · rfl
    · rename_i operator sign
      rw [Operator.ofChar?_eq_some_iff] at sign
      rw [if_pos (stops operator next (sign ▸ found))]

theorem operatorsAt_of_next? {operator : Operator} {next : Cursor}
    (found : start.next? = some (operator.sign, next)) (tight : floor ≤ operator.level) :
    operatorsAt floor left start = (termAt (operator.level + 1) next).bind fun operand =>
      operatorsAt floor (.binary operator left operand.1) operand.2 := by
  rw [operatorsAt_eq, found]
  simp only [Operator.ofChar?_eq_some_iff.2 rfl, if_neg (Nat.not_lt.2 tight)]

theorem operatorsAt_of_sign {operator : Operator} {right : Term} {next behind : Cursor}
    (found : start.next? = some (operator.sign, next)) (tight : floor ≤ operator.level)
    (read : termAt (operator.level + 1) next = .ok (right, behind)) :
    operatorsAt floor left start = operatorsAt floor (.binary operator left right) behind := by
  rw [operatorsAt_of_next? found tight, read, Except.bind]

theorem operatorsAt_eq_ok_cases (read : operatorsAt floor left start = .ok (term, stop)) :
    (StopsAt floor start ∧ term = left ∧ stop = start.skipBlanks) ∨
      ∃ operator next right behind, start.next? = some (operator.sign, next) ∧
        floor ≤ operator.level ∧ termAt (operator.level + 1) next = .ok (right, behind) ∧
        operatorsAt floor (.binary operator left right) behind = .ok (term, stop) := by
  by_cases stops : StopsAt floor start
  · rw [operatorsAt_of_stopsAt stops] at read
    cases read
    exact .inl ⟨stops, rfl, rfl⟩
  · simp only [StopsAt, not_forall, Nat.not_lt] at stops
    obtain ⟨operator, next, found, tight⟩ := stops
    cases operand : termAt (operator.level + 1) next with
    | error reason =>
        rw [operatorsAt_of_next? found tight, operand] at read
        cases read
    | ok result =>
        rw [operatorsAt_of_sign found tight operand] at read
        exact .inr ⟨operator, next, result.1, result.2, found, tight, operand, read⟩

@[simp] theorem operatorsAt_skipBlanks (floor : Nat) (left : Term) (start : Cursor) :
    operatorsAt floor left start.skipBlanks = operatorsAt floor left start := by
  rw [operatorsAt_eq, Cursor.next?_skipBlanks, Cursor.skipBlanks_skipBlanks, ← operatorsAt_eq]

theorem length_lt_of_termAt (read : termAt floor start = .ok (term, stop)) :
    stop.rest.length < start.rest.length := by
  obtain ⟨⟨_, shorter⟩, -, rfl⟩ := map_eq_ok_iff.1 read
  exact shorter

theorem length_lt_of_operandAt (read : operandAt start = .ok (term, stop)) :
    stop.rest.length < start.rest.length := by
  obtain ⟨⟨_, shorter⟩, -, rfl⟩ := map_eq_ok_iff.1 read
  exact shorter

theorem length_lt_of_next? {c : Char} (found : start.next? = some (c, stop)) :
    stop.rest.length < start.rest.length := by
  obtain ⟨-, gap, passes⟩ := Cursor.next?_eq_some_iff.1 found
  rw [passes.rest, List.length_append, List.length_append, List.length_singleton]
  omega

theorem StopsAt.congr {other : Cursor} (stops : StopsAt floor start)
    (same : start.skipBlanks = other.skipBlanks) : StopsAt floor other := by
  intro operator next found
  exact stops operator next (Cursor.next?_congr same ▸ found)

/-- A text is read to its end. -/
theorem read_eq (source : String) :
    Expression.read source =
      (termAt 0 ⟨0, source.toList⟩).bind fun root =>
        match root.2.next? with
        | none => .ok ⟨String.ofList (trim source.toList), root.1⟩
        | some (c, _) => .error (.unexpected c root.2.skipBlanks.column) := by
  rw [Expression.read, termAt]
  cases readTerm 0 ⟨0, source.toList⟩ with
  | error reason => rfl
  | ok root =>
      obtain ⟨⟨root, behind⟩, shorter⟩ := root
      simp only [Except.map, Except.bind]
      split
      · rename_i c rest front
        rw [Cursor.next?_of_cons front]
      · rename_i front
        rw [Cursor.next?_of_nil front]

theorem read_eq_ok_iff {source : String} {expression : Expression} :
    Expression.read source = .ok expression ↔
      expression.source = String.ofList (trim source.toList) ∧
        ∃ stop, termAt 0 ⟨0, source.toList⟩ = .ok (expression.root, stop) ∧ stop.next? = none := by
  rw [read_eq]
  constructor
  · intro read
    obtain ⟨⟨root, stop⟩, term, rest⟩ := bind_eq_ok_iff.1 read
    split at rest
    · rename_i ended
      cases rest
      exact ⟨rfl, stop, term, ended⟩
    · cases rest
  · rintro ⟨trimmed, stop, term, ended⟩
    rw [term, Except.bind]
    simp only [ended, ← trimmed]

end Readers

end BytePattern.Expression
