import BytePattern.Text.Numeral
import BytePattern.Text.Width

/-!
# JSON lexemes

A JSON text is cut into lexemes, each with the bytes at which it starts and stops. The cutting ends
at the end of the text or at the first characters that begin no lexeme, where a broken one stands.
A string keeps its escapes as they are, because an escape that stands for no character only matters
where the string is wanted.
-/

namespace BytePattern.Json

inductive Sign where
  | plus
  | minus
deriving DecidableEq, Repr

/-- An exponent as it is written, behind its letter. -/
structure Exponent where
  sign : Option Sign := none
  digits : List Nat
deriving DecidableEq, Repr

structure Numeral where
  negative : Bool := false
  /-- The digits before the point. -/
  whole : List Nat
  /-- The digits behind the point, if there is one. -/
  fraction : Option (List Nat) := none
  exponent : Option Exponent := none
deriving DecidableEq, Repr

def Numeral.width (numeral : Numeral) : Nat :=
  let exponent (exponent : Exponent) : Nat :=
    1 + exponent.sign.toList.length + exponent.digits.length
  numeral.negative.toNat + numeral.whole.length +
    (numeral.fraction.elim 0 fun digits => 1 + digits.length) + numeral.exponent.elim 0 exponent

/-- A part of a string: a character, one that is written as a backslash and a letter, or four
hexadecimal digits that stand for half a character or for a whole one. -/
inductive Piece where
  | character (c : Char)
  | escape (c : Char)
  | unit (code : Nat)
deriving DecidableEq, Repr

def Piece.width : Piece → Nat
  | .character c => c.utf8Size
  | .escape _ => 2
  | .unit _ => 6

inductive Lexeme where
  | openBrace
  | closeBrace
  | openBracket
  | closeBracket
  | comma
  | colon
  | null
  | bool (value : Bool)
  | number (numeral : Numeral)
  | string (pieces : List Piece)
  | broken
deriving DecidableEq, Repr

/-- The bytes that a lexeme takes; a broken one takes none. -/
def Lexeme.width : Lexeme → Nat
  | .openBrace | .closeBrace | .openBracket | .closeBracket | .comma | .colon => 1
  | .null => 4
  | .bool value => if value then 4 else 5
  | .number numeral => numeral.width
  | .string pieces => 2 + (pieces.map Piece.width).foldr (· + ·) 0
  | .broken => 0

/-- A lexeme and the bytes of the text between which it stands. -/
structure Placed where
  lexeme : Lexeme
  start : Nat
  stop : Nat
deriving DecidableEq, Repr

/-- The characters that may stand between lexemes. -/
def isSpace (c : Char) : Bool :=
  c == ' ' || c == '\n' || c == '\t' || c == '\r'

def dropText? : List Char → List Char → Option (List Char)
  | [], text => some text
  | _ :: _, [] => none
  | c :: expected, d :: text => if c = d then dropText? expected text else none

/-- The digits at the front of a text and what follows them. -/
def readDigits : List Char → List Nat × List Char
  | [] => ([], [])
  | c :: rest =>
    match Text.digitValue? 10 c with
    | some digit =>
      let (digits, behind) := readDigits rest
      (digit :: digits, behind)
    | none => ([], c :: rest)

def readSomeDigits? (text : List Char) : Option (List Nat × List Char) :=
  match readDigits text with
  | ([], _) => none
  | found => some found

/-- The digits before the point: a zero stands alone. -/
def readWhole? (text : List Char) : Option (List Nat × List Char) := do
  let (digits, behind) ← readSomeDigits? text
  match digits with
  | 0 :: _ :: _ => none
  | _ => return (digits, behind)

def readFraction? : List Char → Option (Option (List Nat) × List Char)
  | '.' :: text => do
    let (digits, behind) ← readSomeDigits? text
    return (some digits, behind)
  | text => some (none, text)

def readSign : List Char → Option Sign × List Char
  | '+' :: text => (some .plus, text)
  | '-' :: text => (some .minus, text)
  | text => (none, text)

def readExponent? : List Char → Option (Option Exponent × List Char)
  | [] => some (none, [])
  | c :: text =>
    if c = 'e' ∨ c = 'E' then do
      let (sign, text) := readSign text
      let (digits, behind) ← readSomeDigits? text
      return (some ⟨sign, digits⟩, behind)
    else some (none, c :: text)

/-- A number behind its sign. -/
def readNumeral? (negative : Bool) (text : List Char) : Option (Lexeme × List Char) := do
  let (whole, text) ← readWhole? text
  let (fraction, text) ← readFraction? text
  let (exponent, text) ← readExponent? text
  return (.number ⟨negative, whole, fraction, exponent⟩, text)

/-- The character that a letter behind a backslash stands for. -/
def escaped? : Char → Option Char
  | '"' => some '"'
  | '\\' => some '\\'
  | '/' => some '/'
  | 'b' => some '\x08'
  | 'f' => some '\x0C'
  | 'n' => some '\n'
  | 'r' => some '\r'
  | 't' => some '\t'
  | _ => none

/-- The rest of a string behind its first quote. -/
def readString? : List Char → Option (List Piece × List Char)
  | [] => none
  | '"' :: rest => some ([], rest)
  | '\\' :: 'u' :: a :: b :: c :: d :: rest => do
    let code ← Text.digits? 16 [a, b, c, d]
    let (pieces, behind) ← readString? rest
    return (.unit code :: pieces, behind)
  | '\\' :: letter :: rest => do
    let c ← escaped? letter
    let (pieces, behind) ← readString? rest
    return (.escape c :: pieces, behind)
  | c :: rest =>
    if c.toNat < 0x20 ∨ c = '\\' then none
    else do
      let (pieces, behind) ← readString? rest
      return (.character c :: pieces, behind)

/-- The lexeme at the front of a text that does not start with a space. -/
def readLexeme? : List Char → Option (Lexeme × List Char)
  | [] => none
  | c :: rest =>
    if c = '\x7b' then some (.openBrace, rest)
    else if c = '\x7d' then some (.closeBrace, rest)
    else if c = '[' then some (.openBracket, rest)
    else if c = ']' then some (.closeBracket, rest)
    else if c = ',' then some (.comma, rest)
    else if c = ':' then some (.colon, rest)
    else if c = 'n' then (dropText? "ull".toList rest).map fun rest => (.null, rest)
    else if c = 't' then (dropText? "rue".toList rest).map fun rest => (.bool true, rest)
    else if c = 'f' then (dropText? "alse".toList rest).map fun rest => (.bool false, rest)
    else if c = '"' then (readString? rest).map fun (pieces, rest) => (.string pieces, rest)
    else if c = '-' then readNumeral? true rest
    else readNumeral? false (c :: rest)

/-- The lexemes of a text that starts at a byte, at most so many of them. -/
def lexemesFrom (start : Nat) (text : List Char) : Nat → List Placed
  | 0 => []
  | more + 1 =>
    let start := start + Text.width (text.takeWhile isSpace)
    match text.dropWhile isSpace with
    | [] => []
    | text =>
      match readLexeme? text with
      | none => [⟨.broken, start, start⟩]
      | some (lexeme, rest) =>
        let stop := start + lexeme.width
        ⟨lexeme, start, stop⟩ :: lexemesFrom stop rest more

/-- The lexemes of a text. Each takes at least one character, so their number is bounded by the
number of characters. -/
def lexemes (text : List Char) : List Placed :=
  lexemesFrom 0 text text.length

/-- Joins the pieces of a string. A code between 0xD800 and 0xDBFF is half a character and needs a
code between 0xDC00 and 0xDFFF right behind it; there is no string if one of them stands alone. -/
def joinPieces? : List Piece → Option (List Char)
  | [] => some []
  | .character c :: rest | .escape c :: rest => (joinPieces? rest).map (c :: ·)
  | .unit code :: rest =>
    if code < 0xD800 ∨ 0xDFFF < code then (joinPieces? rest).map (Char.ofNat code :: ·)
    else if 0xDC00 ≤ code then none
    else
      match rest with
      | .unit low :: rest =>
        if 0xDC00 ≤ low ∧ low ≤ 0xDFFF then
          let c := Char.ofNat (0x10000 + (code - 0xD800) * 0x400 + (low - 0xDC00))
          (joinPieces? rest).map (c :: ·)
        else none
      | _ => none

end BytePattern.Json
