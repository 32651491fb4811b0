import BytePattern.Text.Blank
import BytePattern.Text.Width

/-!
# Reading places in an expression text

A cursor is the rest of a text together with the byte column at which it starts. Moving a cursor
forward never lengthens the rest, which is why reading an expression ends.
-/

namespace BytePattern.Expression

/-- The unread rest of a text and the byte column of its first character. -/
structure Cursor where
  column : Nat
  rest : List Char
deriving DecidableEq, Repr

namespace Cursor

/-- The cursor behind a run of characters that stands at the front. -/
def behind (column : Nat) (run rest : List Char) : Cursor :=
  ⟨column + Text.width run, rest⟩

/-- Passes over the characters at the front that satisfy a test. -/
def skipWhile (test : Char → Bool) (cursor : Cursor) : Cursor :=
  behind cursor.column (cursor.rest.takeWhile test) (cursor.rest.dropWhile test)

def skipBlanks (cursor : Cursor) : Cursor :=
  cursor.skipWhile Text.isBlank

theorem length_rest_skipWhile_le (test : Char → Bool) (cursor : Cursor) :
    (cursor.skipWhile test).rest.length ≤ cursor.rest.length :=
  (List.dropWhile_sublist _).length_le

theorem length_rest_skipBlanks_le (cursor : Cursor) :
    cursor.skipBlanks.rest.length ≤ cursor.rest.length :=
  length_rest_skipWhile_le _ cursor

theorem length_lt_of_skipBlanks {start : Cursor} {c : Char} {rest : List Char}
    (front : start.skipBlanks.rest = c :: rest) : rest.length < start.rest.length := by
  have := start.length_rest_skipBlanks_le
  rw [front] at this
  exact this

/-- The letters, digits and underscores at the front. -/
def isWordCharacter (c : Char) : Bool :=
  c.isAlphanum || c == '_'

def word (cursor : Cursor) : List Char :=
  cursor.rest.takeWhile isWordCharacter

def skipWord (cursor : Cursor) : Cursor :=
  cursor.skipWhile isWordCharacter

theorem length_rest_skipWord_le (cursor : Cursor) :
    cursor.skipWord.rest.length ≤ cursor.rest.length :=
  length_rest_skipWhile_le _ cursor

/-- A word that starts with a letter or digit takes at least one character. -/
theorem length_rest_skipWord_lt {cursor : Cursor} {c : Char} {rest : List Char}
    (front : cursor.rest = c :: rest) (member : c.isAlphanum = true) :
    cursor.skipWord.rest.length < cursor.rest.length := by
  have : isWordCharacter c = true := by simp [isWordCharacter, member]
  simp only [skipWord, skipWhile, behind, front, List.dropWhile_cons, this, if_true,
    List.length_cons]
  exact Nat.lt_succ_of_le (List.dropWhile_sublist _).length_le

end Cursor

/-- What was read before some later place in the text. -/
abbrev Advance (α : Type) (start : Cursor) : Type :=
  { result : α × Cursor // result.2.rest.length < start.rest.length }

/-- What was read before some place in the text that is the same or later. -/
abbrev Stay (α : Type) (start : Cursor) : Type :=
  { result : α × Cursor // result.2.rest.length ≤ start.rest.length }

end BytePattern.Expression
