import BytePattern.Text.Encoding
import BytePattern.Text.Numeral
import BytePattern.Yaml.Cursor
import BytePattern.Yaml.Token

/-!
# YAML node properties and directives

Anchors, aliases and tags stand in front of nodes; directives stand in front of a document.
-/

namespace BytePattern.Yaml

/-- Reads the name of an anchor or alias behind its mark. -/
def readName? (cursor : Cursor) : Option (String × Cursor) :=
  let (name, behind) := (cursor.skip 1).takeWhile isNameCharacter
  let next := behind.peek 0
  let isMark := next.any fun c =>
    c == '?' || c == ':' || c == ',' || c == ']' || c == '\x7d' || c == '%' || c == '@' || c == '\x60'
  if name.isEmpty then none
  else if endsWord next || isMark then some (String.ofList name, behind)
  else none

namespace Tag

def isMark (c : Char) : Bool :=
  c == ';' || c == '/' || c == '?' || c == ':' || c == '@' || c == '&' || c == '=' || c == '+'
    || c == '$' || c == '.' || c == '!' || c == '~' || c == '*' || c == '\'' || c == '(' || c == ')'

/-- The further punctuation that tags in angle brackets may hold. -/
def isListMark (c : Char) : Bool :=
  c == ',' || c == '[' || c == ']'

/-- How many bytes a character has that starts with a byte; none if no character does. -/
def widthOfFirst? (byte : Nat) : Option Nat :=
  if byte < 0x80 then some 1
  else if 0xC0 ≤ byte ∧ byte < 0xE0 then some 2
  else if 0xE0 ≤ byte ∧ byte < 0xF0 then some 3
  else if 0xF0 ≤ byte ∧ byte < 0xF8 then some 4
  else none

/-- The bytes of a tag, as far as its characters go. A percent sign stands before a byte in
hexadecimal; `missing` more bytes are needed to end a character. -/
def readBytes? (inAngles : Bool) : Nat → List Char → Option (List UInt8 × List Char)
  | missing, '%' :: high :: low :: rest => do
    let byte ← Text.digits? 16 [high, low]
    let missing ←
      match missing with
      | 0 => (widthOfFirst? byte).map (· - 1)
      | missing + 1 => if 0x80 ≤ byte ∧ byte < 0xC0 then some missing else none
    let (bytes, behind) ← readBytes? inAngles missing rest
    return (UInt8.ofNat byte :: bytes, behind)
  | 0, c :: rest =>
    if isNameCharacter c || isMark c || (inAngles && isListMark c) then do
      let (bytes, behind) ← readBytes? inAngles 0 rest
      return (UInt8.ofNat c.toNat :: bytes, behind)
    else if c == '%' then none
    else some ([], c :: rest)
  | 0, [] => some ([], [])
  | _ + 1, _ => none

/-- The text of the bytes of a tag. No known tag has bytes that are no text. -/
def textOf (bytes : List UInt8) : String :=
  (Text.decode? bytes.toArray).getD "\uFFFD"

/-- Reads the characters of a tag behind those of `before`; together there must be some. -/
def readRest? (inAngles : Bool) (before : List Char) (cursor : Cursor) :
    Option (String × Cursor) := do
  let (bytes, behind) ← readBytes? inAngles 0 cursor.rest
  if before.isEmpty && bytes.isEmpty then none
  else
    return (String.ofList (before.drop 1) ++ textOf bytes, cursor.skipTo behind)

/-- Reads what may be a handle: an exclamation mark, a name, and another one if it is there. -/
def readHandle? (cursor : Cursor) : Option (List Char × Cursor) :=
  if cursor.sees '!' then
    let (name, cursor) := (cursor.skip 1).takeWhile isNameCharacter
    if cursor.sees '!' then some ('!' :: name ++ ['!'], cursor.skip 1)
    else some ('!' :: name, cursor)
  else none

/-- Whether what was read as a handle is one with two exclamation marks. -/
def isClosed (handle : List Char) : Bool :=
  decide (1 < handle.length) && handle.getLast? == some '!'

/-- Reads a tag as a handle and a suffix. A tag in angle brackets has an empty handle; a tag that is
nothing but an exclamation mark has an empty handle too, and the mark as its suffix. -/
def read? (inBrackets : Bool) (cursor : Cursor) : Option (Token × Cursor) := do
  let (handle, suffix, cursor) ←
    if cursor.peek 1 == some '<' then do
      let (suffix, cursor) ← readRest? true [] (cursor.skip 2)
      if cursor.sees '>' then some ("", suffix, cursor.skip 1) else none
    else do
      let (handle, cursor) ← readHandle? cursor
      if isClosed handle then do
        let (suffix, cursor) ← readRest? false [] cursor
        some (String.ofList handle, suffix, cursor)
      else do
        let (suffix, cursor) ← readRest? false handle cursor
        if suffix.isEmpty then some ("", "!", cursor) else some ("!", suffix, cursor)
  let isEnd := endsWord (cursor.peek 0) || (inBrackets && cursor.sees ',')
  if isEnd then some (.tag handle suffix, cursor) else none

end Tag

namespace Directive

def readNumber? (cursor : Cursor) : Option (Nat × Cursor) := do
  let (digits, cursor) := cursor.takeWhile Char.isDigit
  if 9 < digits.length then none else return (← Text.digits? 10 digits, cursor)

def readVersion? (cursor : Cursor) : Option (Token × Cursor) := do
  let (major, cursor) ← readNumber? (cursor.skipWhile isBlank)
  if !cursor.sees '.' then none
  else
    let (minor, cursor) ← readNumber? (cursor.skip 1)
    return (.versionDirective major minor, cursor)

def readTag? (cursor : Cursor) : Option (Token × Cursor) := do
  let (handle, cursor) ← Tag.readHandle? (cursor.skipWhile isBlank)
  if !(handle == ['!'] || Tag.isClosed handle) then none
  else if !(cursor.peek 0).any isBlank then none
  else
    let (expansion, cursor) ← Tag.readRest? true [] (cursor.skipWhile isBlank)
    if endsWord (cursor.peek 0) then
      return (.tagDirective (String.ofList handle) expansion, cursor)
    else none

def read? (cursor : Cursor) : Option (Token × Cursor) := do
  let (name, cursor) := (cursor.skip 1).takeWhile isNameCharacter
  if !endsWord (cursor.peek 0) then none
  else
    let (token, cursor) ←
      if name == "YAML".toList then readVersion? cursor
      else if name == "TAG".toList then readTag? cursor
      else none
    return (token, ← cursor.skipLineEnd?)

end Directive

end BytePattern.Yaml
