/-!
# Places in a YAML text

A cursor is a place in a text with its line and its column; both decide what a character means.
Line breaks are the two of ASCII, alone or together, and three more characters.
-/

namespace BytePattern.Yaml

/-- The characters that a YAML text may consist of. -/
def isAllowed (c : Char) : Bool :=
  let code := c.toNat
  code == 0x09 || code == 0x0A || code == 0x0D || (0x20 ≤ code && code ≤ 0x7E) || code == 0x85
    || (0xA0 ≤ code && code ≤ 0xD7FF) || (0xE000 ≤ code && code ≤ 0xFFFD) || 0x10000 ≤ code

/-- The mark that may stand in front of a text. -/
def byteOrderMark : Char := '\uFEFF'

def isBreak (c : Char) : Bool :=
  c == '\n' || c == '\r' || c == '\u0085' || c == '\u2028' || c == '\u2029'

def isBlank (c : Char) : Bool :=
  c == ' ' || c == '\t'

/-- Letters, digits and the two marks that names consist of. -/
def isNameCharacter (c : Char) : Bool :=
  c.isAlphanum || c == '-' || c == '_'

/-- Whether a word ends in front of a character, or of the end of the text. -/
def endsWord (next : Option Char) : Bool :=
  next.all fun c => isBlank c || isBreak c

/-- Whether a line ends in front of a character, or of the end of the text. -/
def endsLine (next : Option Char) : Bool :=
  next.all isBreak

/-- A place in a text. Lines, columns and indices count characters from zero. -/
structure Cursor where
  rest : List Char
  index : Nat := 0
  line : Nat := 0
  column : Nat := 0

namespace Cursor

def peek (cursor : Cursor) (distance : Nat) : Option Char :=
  cursor.rest[distance]?

/-- Whether a character stands at the cursor. -/
def sees (cursor : Cursor) (c : Char) : Bool :=
  cursor.peek 0 == some c

/-- The cursor some characters later in the same line. -/
def skip (cursor : Cursor) (count : Nat) : Cursor where
  rest := cursor.rest.drop count
  index := cursor.index + count
  line := cursor.line
  column := cursor.column + count

/-- The cursor in front of a later part of the same line. -/
def skipTo (cursor : Cursor) (rest : List Char) : Cursor :=
  cursor.skip (cursor.rest.length - rest.length)

/-- The characters up to the first that fails a test, and the cursor in front of it. -/
def takeWhile (cursor : Cursor) (test : Char → Bool) : List Char × Cursor :=
  let run := cursor.rest.takeWhile test
  (run, cursor.skip run.length)

def skipWhile (cursor : Cursor) (test : Char → Bool) : Cursor :=
  (cursor.takeWhile test).2

/-- The line break at the cursor and the cursor in the next line. The two breaks of ASCII, together
or alone, and the break at U+0085 count as a line feed; the other two stand for themselves. -/
def takeBreak (cursor : Cursor) : List Char × Cursor :=
  match cursor.rest with
  | '\r' :: '\n' :: rest => (['\n'], ⟨rest, cursor.index + 2, cursor.line + 1, 0⟩)
  | c :: rest =>
    if isBreak c then
      let kept := if c == '\u2028' || c == '\u2029' then c else '\n'
      ([kept], ⟨rest, cursor.index + 1, cursor.line + 1, 0⟩)
    else ([], cursor)
  | [] => ([], cursor)

def skipBreak (cursor : Cursor) : Cursor :=
  cursor.takeBreak.2

def skipComment (cursor : Cursor) : Cursor :=
  if cursor.sees '#' then cursor.skipWhile fun c => !isBreak c else cursor

/-- Whether a line starts here with three equal marks that stand alone. -/
def atMark (cursor : Cursor) (mark : Char) : Bool :=
  cursor.column == 0 && cursor.rest.take 3 == [mark, mark, mark] && endsWord (cursor.peek 3)

def atDocumentMark (cursor : Cursor) : Bool :=
  cursor.atMark '-' || cursor.atMark '.'

/-- Skips what may follow the last word of a line that says nothing else: blanks and a comment.
There is no result if anything else follows. -/
def skipLineEnd? (cursor : Cursor) : Option Cursor :=
  let cursor := (cursor.skipWhile isBlank).skipComment
  if endsLine (cursor.peek 0) then some cursor.skipBreak else none

end Cursor

end BytePattern.Yaml
