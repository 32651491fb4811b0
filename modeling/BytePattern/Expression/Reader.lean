import BytePattern.Expression.Basic
import BytePattern.Expression.Cursor

/-!
# Reading expressions

Expressions are infix with hexadecimal numbers. The operators `* / %` bind tightest, then `+ -`,
`&`, `^` and `|`; operators of one level group to the left. `$`, `$here` and `here` stand for the
address of the match, parentheses group, and brackets load from memory. A bracket may be followed
at once by a suffix: a dot, then `r` for a relative and `s` for a signed load, then the width `b`,
`w`, `d` or `q`. A relative load without a width reads a signed number of four bytes.
-/

namespace BytePattern.Expression

/-- Takes one given character from the front, if it is there. -/
def takeLetter (letter : Char) (cursor : Cursor) : Bool × Cursor :=
  match cursor.rest with
  | c :: rest => if c = letter then (true, ⟨cursor.column + c.utf8Size, rest⟩) else (false, cursor)
  | [] => (false, cursor)

theorem length_rest_takeLetter_le (letter : Char) (cursor : Cursor) :
    (takeLetter letter cursor).2.rest.length ≤ cursor.rest.length := by
  unfold takeLetter
  split
  · rename_i found
    split
    · simp [found]
    · exact Nat.le_refl _
  · exact Nat.le_refl _

/-- The width letter at the front, if there is one. -/
def takeWidth? (cursor : Cursor) : Option (Width × Cursor) :=
  match cursor.rest with
  | c :: rest => (Width.ofChar? c).map fun width => (width, ⟨cursor.column + c.utf8Size, rest⟩)
  | [] => none

theorem length_rest_takeWidth?_le {cursor after : Cursor} {width : Width}
    (taken : takeWidth? cursor = some (width, after)) :
    after.rest.length ≤ cursor.rest.length := by
  unfold takeWidth? at taken
  split at taken
  · rename_i found
    obtain ⟨_, _, pair⟩ := Option.map_eq_some_iff.1 taken
    cases pair
    simp [found]
  · cases taken

/-- Reads the suffix of a load, right behind its bracket. -/
def readSuffix (start : Cursor) : Except ExpressionError (Stay Load start) :=
  let dot := takeLetter '.' start
  let relative := takeLetter 'r' dot.2
  let signed := takeLetter 's' relative.2
  have reached : signed.2.rest.length ≤ start.rest.length :=
    Nat.le_trans (length_rest_takeLetter_le _ _)
      (Nat.le_trans (length_rest_takeLetter_le _ _) (length_rest_takeLetter_le _ _))
  if dot.1 then
    match taken : takeWidth? signed.2 with
    | some (width, after) =>
      .ok ⟨(⟨width, signed.1, relative.1⟩, after),
        Nat.le_trans (length_rest_takeWidth?_le taken) reached⟩
    | none =>
      if relative.1 then .ok ⟨(⟨.double, true, true⟩, signed.2), reached⟩
      else .error (.invalidLoadSize signed.2.column)
  else .ok ⟨(.plain, start), Nat.le_refl _⟩

/-- Passes over blanks and one required character. -/
def expect (letter : Char) (start : Cursor) : Except ExpressionError (Stay Unit start) :=
  let cursor := start.skipBlanks
  match front : cursor.rest with
  | c :: rest =>
    if c = letter then
      .ok ⟨((), ⟨cursor.column + c.utf8Size, rest⟩),
        Nat.le_of_lt (Cursor.length_lt_of_skipBlanks front)⟩
    else .error (.unexpected c cursor.column)
  | [] => .error .unexpectedEnd

def readWord (word : List Char) (column : Nat) : Except ExpressionError Term :=
  if word = "here".toList then .ok .here
  else
    match Text.word64? 16 (Text.dropHexMark word) with
    | some value => .ok (.number value)
    | none => .error (.invalidNumber (String.ofList word) column)

mutual

/-- Reads an operand and the operators after it that bind at least as tightly as `floor`. -/
def readTerm (floor : Nat) (start : Cursor) : Except ExpressionError (Advance Term start) :=
  match readOperand start with
  | .error reason => .error reason
  | .ok ⟨(left, behind), shorter⟩ =>
    match readOperators floor left behind with
    | .error reason => .error reason
    | .ok ⟨result, notLonger⟩ => .ok ⟨result, Nat.lt_of_le_of_lt notLonger shorter⟩
termination_by (start.rest.length, 2)

/-- Goes on from a term with the operators that bind at least as tightly as `floor`. -/
def readOperators (floor : Nat) (left : Term) (start : Cursor) :
    Except ExpressionError (Stay Term start) :=
  let cursor := start.skipBlanks
  have reached := start.length_rest_skipBlanks_le
  match front : cursor.rest with
  | [] => .ok ⟨(left, cursor), reached⟩
  | c :: rest =>
    have shorter : rest.length < start.rest.length := Cursor.length_lt_of_skipBlanks front
    match Operator.ofChar? c with
    | none => .ok ⟨(left, cursor), reached⟩
    | some operator =>
      if operator.level < floor then .ok ⟨(left, cursor), reached⟩
      else
        match readTerm (operator.level + 1) ⟨cursor.column + 1, rest⟩ with
        | .error reason => .error reason
        | .ok ⟨(right, behind), nearer⟩ =>
          have shorter : behind.rest.length < start.rest.length := Nat.lt_trans nearer shorter
          match readOperators floor (.binary operator left right) behind with
          | .error reason => .error reason
          | .ok ⟨result, notLonger⟩ =>
            .ok ⟨result, Nat.le_of_lt (Nat.lt_of_le_of_lt notLonger shorter)⟩
termination_by (start.rest.length, 1)

def readOperand (start : Cursor) : Except ExpressionError (Advance Term start) :=
  let cursor := start.skipBlanks
  have reached := start.length_rest_skipBlanks_le
  match front : cursor.rest with
  | [] => .error .unexpectedEnd
  | c :: rest =>
    have shorter : rest.length < start.rest.length := Cursor.length_lt_of_skipBlanks front
    let next : Cursor := ⟨cursor.column + 1, rest⟩
    if c = '(' then
      match readTerm 0 next with
      | .error reason => .error reason
      | .ok ⟨(inner, behind), nearer⟩ =>
        match expect ')' behind with
        | .error reason => .error reason
        | .ok ⟨(_, after), notLonger⟩ =>
          .ok ⟨(inner, after), Nat.lt_of_le_of_lt notLonger (Nat.lt_trans nearer shorter)⟩
    else if c = '[' then
      match readTerm 0 next with
      | .error reason => .error reason
      | .ok ⟨(inner, behind), nearer⟩ =>
        match expect ']' behind with
        | .error reason => .error reason
        | .ok ⟨(_, closed), notLonger⟩ =>
          match readSuffix closed with
          | .error reason => .error reason
          | .ok ⟨(load, after), again⟩ =>
            .ok ⟨(.load load inner, after),
              Nat.lt_of_le_of_lt (Nat.le_trans again notLonger) (Nat.lt_trans nearer shorter)⟩
    else if c = '$' then
      if next.word = [] ∨ next.word = "here".toList then
        .ok ⟨(.here, next.skipWord), Nat.lt_of_le_of_lt next.length_rest_skipWord_le shorter⟩
      else .error (.unknownSymbol (String.ofList next.word) cursor.column)
    else if member : c.isAlphanum = true then
      match readWord cursor.word cursor.column with
      | .error reason => .error reason
      | .ok operand =>
        .ok ⟨(operand, cursor.skipWord),
          Nat.lt_of_lt_of_le (Cursor.length_rest_skipWord_lt front member) reached⟩
    else .error (.unexpected c cursor.column)
termination_by (start.rest.length, 0)

end

end BytePattern.Expression

namespace BytePattern

def Expression.read (source : String) : Except ExpressionError Expression :=
  match Expression.readTerm 0 ⟨0, source.toList⟩ with
  | .error reason => .error reason
  | .ok ⟨(root, behind), _⟩ =>
    let cursor := behind.skipBlanks
    match cursor.rest with
    | c :: _ => .error (.unexpected c cursor.column)
    | [] => .ok ⟨String.ofList (Text.trim source.toList), root⟩

end BytePattern
