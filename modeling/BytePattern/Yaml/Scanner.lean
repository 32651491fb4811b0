import BytePattern.Yaml.Property
import BytePattern.Yaml.Scalar

/-!
# The tokens of a YAML text

A text is read from left to right. The columns at which lists and mappings began are kept on a
stack; a lesser column closes them. Whether something is the key of a mapping shows only at the
colon behind it, so the last place at which a key may have begun is remembered on every level of
brackets. A key stays on one line and is at most 1024 characters long.
-/

namespace BytePattern.Yaml

/-- A place at which a key may have begun. -/
structure PossibleKey where
  /-- Whether nothing but a key can stand there. -/
  isRequired : Bool
  /-- The number of tokens in front of it. -/
  position : Nat
  index : Nat
  line : Nat
  column : Nat

/-- How far a text has been read. -/
structure Scanner where
  cursor : Cursor
  /-- The columns of the open lists and mappings, the innermost first. -/
  columns : List Nat := []
  /-- What may be a key on every level of brackets, the innermost first; outside of brackets is a
  level too. -/
  key : Option PossibleKey := none
  outerKeys : List (Option PossibleKey) := []
  /-- Whether a key may begin here. -/
  keyAllowed : Bool := true
  tokens : Array Token := #[]

namespace Scanner

/-- The longest distance between the beginning of a key and its colon. -/
def keyLimit : Nat := 1024

def inBrackets (scanner : Scanner) : Bool :=
  !scanner.outerKeys.isEmpty

def push (scanner : Scanner) (token : Token) : Scanner :=
  { scanner with tokens := scanner.tokens.push token }

def moveTo (scanner : Scanner) (cursor : Cursor) : Scanner :=
  { scanner with cursor := cursor }

def skip (scanner : Scanner) (count : Nat) : Scanner :=
  scanner.moveTo (scanner.cursor.skip count)

def allowKey (scanner : Scanner) (allowed : Bool) : Scanner :=
  { scanner with keyAllowed := allowed }

/-- Inserts a token in front of the tokens from a position on. -/
def insert (scanner : Scanner) (position : Nat) (token : Token) : Scanner :=
  { scanner with tokens := scanner.tokens.insertIdxIfInBounds position token }

/-- Opens a list or mapping at a column, unless one is open there. Its token goes to a position
among the tokens. Inside brackets columns do not matter. -/
def openAt (scanner : Scanner) (column position : Nat) (token : Token) : Scanner :=
  if scanner.inBrackets then scanner
  else if scanner.columns.head?.all (· < column) then
    { scanner.insert position token with columns := column :: scanner.columns }
  else scanner

def openHere (scanner : Scanner) (token : Token) : Scanner :=
  scanner.openAt scanner.cursor.column scanner.tokens.size token

/-- Closes the lists and mappings whose columns fail a test. Inside brackets none is closed. -/
def closeUnless (scanner : Scanner) (stays : Nat → Bool) : Scanner :=
  if scanner.inBrackets then scanner
  else
    let closed := (scanner.columns.takeWhile fun column => !stays column).length
    { scanner with
      columns := scanner.columns.drop closed
      tokens := scanner.tokens ++ Array.replicate closed Token.blockEnd }

/-- Gives up the key that may have begun on this level; that is a fault if it had to be one. -/
def dropKey? (scanner : Scanner) : Option Scanner :=
  if scanner.key.any (·.isRequired) then none else some { scanner with key := none }

/-- Remembers that a key may begin at the cursor. Nothing but a key can stand at the column of an
open mapping. -/
def saveKey? (scanner : Scanner) : Option Scanner :=
  if scanner.keyAllowed then do
    let cursor := scanner.cursor
    let isRequired := !scanner.inBrackets && scanner.columns.head? == some cursor.column
    let scanner ← scanner.dropKey?
    let key : PossibleKey :=
      ⟨isRequired, scanner.tokens.size, cursor.index, cursor.line, cursor.column⟩
    return { scanner with key := some key }
  else some scanner

/-- Whether a key that began somewhere can still be one at the cursor. -/
def isFresh (cursor : Cursor) (key : PossibleKey) : Bool :=
  cursor.line ≤ key.line && cursor.index ≤ key.index + keyLimit

/-- Gives up the keys that have become too long; that is a fault if one of them had to be a key. -/
def dropStale? (scanner : Scanner) : Option Scanner := do
  let fresh (key : Option PossibleKey) : Option (Option PossibleKey) :=
    match key with
    | some key =>
      if isFresh scanner.cursor key then some (some key)
      else if key.isRequired then none
      else some none
    | none => some none
  return { scanner with key := ← fresh scanner.key, outerKeys := ← scanner.outerKeys.mapM fresh }

/-- Moves to the next token, over blanks, comments and at most so many line breaks. Tabs do not count as blanks
where a key may begin outside of brackets; a key may begin in every line there. -/
def skipBlanks (scanner : Scanner) : Nat → Scanner
  | 0 => scanner
  | fuel + 1 =>
    let cursor := scanner.cursor
    let cursor :=
      if cursor.index == 0 && cursor.sees byteOrderMark then cursor.skip 1 else cursor
    let tabs := scanner.inBrackets || !scanner.keyAllowed
    let cursor := (cursor.skipWhile fun c => c == ' ' || (tabs && c == '\t')).skipComment
    if (cursor.peek 0).any isBreak then
      let scanner := scanner.moveTo cursor.skipBreak
      (scanner.allowKey (scanner.keyAllowed || !scanner.inBrackets)).skipBlanks fuel
    else scanner.moveTo cursor

def readBetween? (scanner : Scanner) (token : Token) (behind : Cursor) : Option Scanner := do
  let scanner ← (scanner.closeUnless fun _ => false).dropKey?
  return ((scanner.allowKey false).moveTo behind).push token

def openBracket? (scanner : Scanner) (token : Token) : Option Scanner := do
  let scanner ← scanner.saveKey?
  let scanner := { scanner with key := none, outerKeys := scanner.key :: scanner.outerKeys }
  return ((scanner.allowKey true).skip 1).push token

def closeBracket? (scanner : Scanner) (token : Token) : Option Scanner := do
  let scanner ← scanner.dropKey?
  let scanner :=
    match scanner.outerKeys with
    | [] => scanner
    | key :: outerKeys => { scanner with key := key, outerKeys := outerKeys }
  return ((scanner.allowKey false).skip 1).push token

def readFlowEntry? (scanner : Scanner) : Option Scanner := do
  let scanner ← scanner.dropKey?
  return ((scanner.allowKey true).skip 1).push .flowEntry

def readBlockEntry? (scanner : Scanner) : Option Scanner := do
  let scanner ←
    if scanner.inBrackets then some scanner
    else if scanner.keyAllowed then some (scanner.openHere .blockSequenceStart)
    else none
  let scanner ← scanner.dropKey?
  return ((scanner.allowKey true).skip 1).push .blockEntry

/-- Opens a mapping at the cursor for a key or value that is marked by itself. -/
def openForMark? (scanner : Scanner) : Option Scanner :=
  if scanner.inBrackets then some scanner
  else if scanner.keyAllowed then some (scanner.openHere .blockMappingStart)
  else none

def readKey? (scanner : Scanner) : Option Scanner := do
  let scanner ← (← scanner.openForMark?).dropKey?
  return ((scanner.allowKey (!scanner.inBrackets)).skip 1).push .key

/-- Reads a colon. What may have been a key is one, and the mapping begins in front of it. -/
def readValue? (scanner : Scanner) : Option Scanner := do
  match scanner.key with
  | some key =>
    let scanner := scanner.insert key.position .key
    let scanner := scanner.openAt key.column key.position .blockMappingStart
    let scanner := { scanner with key := none, keyAllowed := false }
    return (scanner.skip 1).push .value
  | none =>
    let scanner ← scanner.openForMark?
    return ((scanner.allowKey (!scanner.inBrackets)).skip 1).push .value

/-- Reads a token that may be the beginning of a key. -/
def readInKey? (scanner : Scanner) (read? : Cursor → Option (Token × Cursor)) : Option Scanner := do
  let scanner := (← scanner.saveKey?).allowKey false
  let (token, cursor) ← read? scanner.cursor
  return (scanner.moveTo cursor).push token

def readQuoted? (scanner : Scanner) (quote : Char) : Option Scanner :=
  scanner.readInKey? fun cursor => do
    let scalar ← Quoted.read? quote cursor
    return (.scalar .quoted (String.ofList scalar.text), scalar.cursor)

def readBlock? (scanner : Scanner) (style : ScalarStyle) : Option Scanner := do
  let scanner := (← scanner.dropKey?).allowKey true
  let scalar ← Block.read? (style == .literal) scanner.columns.head? scanner.cursor
  return (scanner.moveTo scalar.cursor).push (.scalar style (String.ofList scalar.text))

/-- Reads a plain scalar. A key may begin behind it if it ends behind a line break. -/
def readPlain? (scanner : Scanner) : Option Scanner := do
  let scanner := (← scanner.saveKey?).allowKey false
  let column := match scanner.columns.head? with | some column => column + 1 | none => 0
  let scalar ← Plain.read? scanner.inBrackets column scanner.cursor
  let scanner := (scanner.moveTo scalar.cursor).allowKey scalar.isBroken
  return scanner.push (.scalar .plain (String.ofList scalar.text))

/-- The characters that a plain scalar does not begin with. -/
def isIndicator (c : Char) : Bool :=
  "-?:,[]\x7b\x7d#&*!|>'\"%@\x60".toList.contains c

/-- Whether a plain scalar begins with a character. Three of the indicators may begin one if a word
goes on behind them, two of these outside of brackets only. -/
def startsPlain (scanner : Scanner) (c : Char) : Bool :=
  let next := scanner.cursor.peek 1
  (!isIndicator c && !isBlank c && !isBreak c)
    || (c == '-' && !next.any isBlank)
    || (!scanner.inBrackets && (c == '?' || c == ':') && !endsWord next)

/-- Reads the token that begins with a character at the cursor. -/
def readToken? (scanner : Scanner) (c : Char) : Option Scanner :=
  let cursor := scanner.cursor
  let aloneNext := endsWord (cursor.peek 1)
  if cursor.column == 0 && c == '%' then do
    let (token, behind) ← Directive.read? cursor
    scanner.readBetween? token behind
  else if cursor.atMark '-' then scanner.readBetween? .documentStart (cursor.skip 3)
  else if cursor.atMark '.' then scanner.readBetween? .documentEnd (cursor.skip 3)
  else if c == '[' then scanner.openBracket? .flowSequenceStart
  else if c == '\x7b' then scanner.openBracket? .flowMappingStart
  else if c == ']' then scanner.closeBracket? .flowSequenceEnd
  else if c == '\x7d' then scanner.closeBracket? .flowMappingEnd
  else if c == ',' then scanner.readFlowEntry?
  else if c == '-' && aloneNext then scanner.readBlockEntry?
  else if c == '?' && (scanner.inBrackets || aloneNext) then scanner.readKey?
  else if c == ':' && (scanner.inBrackets || aloneNext) then scanner.readValue?
  else if c == '*' then
    scanner.readInKey? fun cursor => (readName? cursor).map fun (name, behind) =>
      (.alias name, behind)
  else if c == '&' then
    scanner.readInKey? fun cursor => (readName? cursor).map fun (name, behind) =>
      (.anchor name, behind)
  else if c == '!' then scanner.readInKey? (Tag.read? scanner.inBrackets)
  else if c == '|' && !scanner.inBrackets then scanner.readBlock? .literal
  else if c == '>' && !scanner.inBrackets then scanner.readBlock? .folded
  else if c == '\'' || c == '"' then scanner.readQuoted? c
  else if scanner.startsPlain c then scanner.readPlain?
  else none

/-- Reads all tokens. Every token and every line break takes at least one character, so the characters
that are left bound the number of both. -/
def readAll? : Nat → Scanner → Option (Array Token)
  | 0, _ => none
  | fuel + 1, scanner => do
    let scanner := scanner.skipBlanks (fuel + 1)
    let scanner ← scanner.dropStale?
    match scanner.cursor.rest with
    | [] =>
      let scanner ← (scanner.closeUnless fun _ => false).dropKey?
      return scanner.tokens
    | c :: _ =>
      let column := scanner.cursor.column
      readAll? fuel (← (scanner.closeUnless (· ≤ column)).readToken? c)

end Scanner

def tokens? (text : String) : Option (List Token) := do
  let text := text.toList
  if !text.all isAllowed then none
  else
    let tokens ← Scanner.readAll? (text.length + 1) { cursor := { rest := text } }
    return tokens.toList

end BytePattern.Yaml
