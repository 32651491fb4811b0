import BytePattern.Text.Numeral
import BytePattern.Yaml.Cursor

/-!
# YAML scalars

The texts of scalars. Plain and quoted scalars may go on over several lines: a single line break
counts as a space, and of several the first is dropped. The lines of a block scalar are those that
are indented far enough; they are kept as they are or folded in a similar way.
-/

namespace BytePattern.Yaml

/-- The blanks and line breaks between two words of a scalar. -/
structure Gap where
  /-- The blanks in front of the first line break. -/
  blanks : List Char := []
  /-- The first line break. -/
  first : List Char := []
  /-- The other line breaks. -/
  others : List Char := []
  /-- Whether there is a line break, be it one that is escaped. -/
  isBroken : Bool := false

namespace Gap

/-- What a line break and the empty lines behind it count as. -/
def fold (first others : List Char) : List Char :=
  if first = ['\n'] then (if others.isEmpty then [' '] else others)
  else first ++ others

def text (gap : Gap) : List Char :=
  if gap.isBroken then fold gap.first gap.others else gap.blanks

/-- Reads on to the next word. A line must not reach the given column with a tab. -/
def read? (column : Nat) : Nat → Gap → Cursor → Option (Gap × Cursor)
  | 0, gap, cursor => some (gap, cursor)
  | fuel + 1, gap, cursor =>
    match cursor.peek 0 with
    | none => some (gap, cursor)
    | some c =>
      if isBlank c then
        if gap.isBroken && cursor.column < column && c == '\t' then none
        else if gap.isBroken then read? column fuel gap (cursor.skip 1)
        else read? column fuel { gap with blanks := gap.blanks ++ [c] } (cursor.skip 1)
      else if isBreak c then
        let (text, cursor) := cursor.takeBreak
        if gap.isBroken then
          read? column fuel { gap with others := gap.others ++ text } cursor
        else read? column fuel { first := text, isBroken := true } cursor
      else some (gap, cursor)

end Gap

/-- The text of a scalar, the cursor behind it, and whether it ends behind a line break. -/
structure ScalarText where
  text : List Char
  isBroken : Bool
  cursor : Cursor

namespace Plain

def isBracketMark (c : Char) : Bool :=
  c == ',' || c == '[' || c == ']' || c == '{' || c == '}'

/-- A word of a plain scalar and what follows it. Inside brackets a colon must not stand right in
front of one of their marks. -/
def readWord? (inBrackets : Bool) : List Char → Option (List Char × List Char)
  | [] => some ([], [])
  | c :: rest =>
    if isBlank c || isBreak c then some ([], c :: rest)
    else if inBrackets && c == ':' && rest.head?.any (fun d => isBracketMark d || d == '?') then none
    else if c == ':' && endsWord rest.head? then some ([], c :: rest)
    else if inBrackets && isBracketMark c then some ([], c :: rest)
    else do
      let (word, behind) ← readWord? inBrackets rest
      return (c :: word, behind)

/-- Reads on behind a gap. Outside brackets a line belongs to the scalar only if it reaches the
given column. -/
def readFrom? (inBrackets : Bool) (column : Nat) :
    Nat → List Char → Gap → Cursor → Option ScalarText
  | 0, text, gap, cursor => some ⟨text, gap.isBroken, cursor⟩
  | fuel + 1, text, gap, cursor =>
    if cursor.atDocumentMark || cursor.sees '#' then some ⟨text, gap.isBroken, cursor⟩
    else do
      let (word, behind) ← readWord? inBrackets cursor.rest
      if word.isEmpty then return ⟨text, gap.isBroken, cursor⟩
      let text := text ++ gap.text ++ word
      let cursor := cursor.skipTo behind
      let (gap, cursor) ← Gap.read? column (cursor.rest.length + 1) {} cursor
      if !inBrackets && cursor.column < column then return ⟨text, gap.isBroken, cursor⟩
      readFrom? inBrackets column fuel text gap cursor

def read? (inBrackets : Bool) (column : Nat) (cursor : Cursor) : Option ScalarText :=
  readFrom? inBrackets column (cursor.rest.length + 1) [] {} cursor

end Plain

namespace Quoted

/-- The character that a letter behind a backslash stands for. -/
def escaped? : Char → Option Char
  | '0' => some '\x00'
  | 'a' => some '\x07'
  | 'b' => some '\x08'
  | 't' => some '\t'
  | '\t' => some '\t'
  | 'n' => some '\n'
  | 'v' => some '\x0B'
  | 'f' => some '\x0C'
  | 'r' => some '\r'
  | 'e' => some '\x1B'
  | ' ' => some ' '
  | '"' => some '"'
  | '/' => some '/'
  | '\\' => some '\\'
  | 'N' => some '\u0085'
  | '_' => some '\u00A0'
  | 'L' => some '\u2028'
  | 'P' => some '\u2029'
  | _ => none

/-- The character with a code that is written in hexadecimal. -/
def coded? (digits : List Char) : Option Char := do
  let code ← Text.digits? 16 digits
  if code.isValidChar then some (Char.ofNat code) else none

/-- The characters up to the next blank, line break or quote, what follows them, and whether they
end with a backslash at the end of the line. -/
def readDouble? : List Char → Option (List Char × List Char × Bool)
  | [] => some ([], [], false)
  | '\\' :: 'x' :: a :: b :: rest => do
    let c ← coded? [a, b]
    let (word, behind, isEscaped) ← readDouble? rest
    return (c :: word, behind, isEscaped)
  | '\\' :: 'u' :: a :: b :: c :: d :: rest => do
    let c ← coded? [a, b, c, d]
    let (word, behind, isEscaped) ← readDouble? rest
    return (c :: word, behind, isEscaped)
  | '\\' :: 'U' :: a :: b :: c :: d :: e :: f :: g :: h :: rest => do
    let c ← coded? [a, b, c, d, e, f, g, h]
    let (word, behind, isEscaped) ← readDouble? rest
    return (c :: word, behind, isEscaped)
  | '\\' :: letter :: rest =>
    if isBreak letter then some ([], letter :: rest, true)
    else do
      let c ← escaped? letter
      let (word, behind, isEscaped) ← readDouble? rest
      return (c :: word, behind, isEscaped)
  | c :: rest =>
    if isBlank c || isBreak c || c == '"' then some ([], c :: rest, false)
    else if c == '\\' then none
    else do
      let (word, behind, isEscaped) ← readDouble? rest
      return (c :: word, behind, isEscaped)

/-- The characters up to the next blank, line break or quote that stands alone, and what follows
them. -/
def readSingle : List Char → List Char × List Char
  | '\'' :: '\'' :: rest =>
    let (word, behind) := readSingle rest
    ('\'' :: word, behind)
  | [] => ([], [])
  | c :: rest =>
    if isBlank c || isBreak c || c == '\'' then ([], c :: rest)
    else
      let (word, behind) := readSingle rest
      (c :: word, behind)

def readWord? (quote : Char) (text : List Char) : Option (List Char × List Char × Bool) :=
  if quote == '"' then readDouble? text
  else
    let (word, behind) := readSingle text
    some (word, behind, false)

def readFrom? (quote : Char) : Nat → List Char → Cursor → Option ScalarText
  | 0, _, _ => none
  | fuel + 1, text, cursor =>
    if cursor.atDocumentMark || cursor.rest.isEmpty then none
    else do
      let (word, behind, isEscaped) ← readWord? quote cursor.rest
      let cursor := cursor.skipTo behind
      let cursor := if isEscaped then cursor.skipBreak else cursor
      let text := text ++ word
      if cursor.sees quote then return ⟨text, false, cursor.skip 1⟩
      let (gap, cursor) ← Gap.read? 0 (cursor.rest.length + 1) { isBroken := isEscaped } cursor
      readFrom? quote fuel (text ++ gap.text) cursor

def read? (quote : Char) (cursor : Cursor) : Option ScalarText :=
  readFrom? quote (cursor.rest.length + 1) [] (cursor.skip 1)

end Quoted

namespace Block

/-- What becomes of the line breaks at the end of a block scalar. -/
inductive Chomping where
  | strip
  | clip
  | keep
deriving DecidableEq, Repr

/-- The marks behind the indicator of a block scalar: what becomes of its end, and by how much it is
indented further than what is around it, if that is stated. -/
structure Header where
  chomping : Chomping := .clip
  increment : Option Nat := none

def chomping? : Char → Option Chomping
  | '+' => some .keep
  | '-' => some .strip
  | _ => none

/-- Reads the two marks of a header in either order; a stated indentation is not zero. -/
def readHeader? (cursor : Cursor) : Option (Header × Cursor) := do
  let chomping (cursor : Cursor) (header : Header) : Header × Cursor :=
    match (cursor.peek 0).bind chomping? with
    | some chomping => ({ header with chomping := chomping }, cursor.skip 1)
    | none => (header, cursor)
  let increment (cursor : Cursor) (header : Header) : Option (Header × Cursor) :=
    match (cursor.peek 0).bind (Text.digitValue? 10) with
    | some 0 => none
    | some digit => some ({ header with increment := some digit }, cursor.skip 1)
    | none => some (header, cursor)
  if ((cursor.peek 0).bind chomping?).isSome then
    let (header, cursor) := chomping cursor {}
    increment cursor header
  else
    let (header, behind) ← increment cursor {}
    if header.increment.isSome then return chomping behind header else return (header, behind)

/-- The line breaks in front of the next line that is not empty. The indentation of the lines is
found here if it is not known, as the widest of the lines that were passed. -/
def readBreaks? (indent : Option Nat) :
    Nat → Nat → List Char → Cursor → Option (Nat × List Char × Cursor)
  | 0, widest, breaks, cursor => some (widest, breaks, cursor)
  | fuel + 1, widest, breaks, cursor =>
    let spaces := (cursor.rest.takeWhile (· == ' ')).length
    let cursor :=
      match indent with
      | none => cursor.skip spaces
      | some indent => cursor.skip (min spaces (indent - cursor.column))
    let widest := max widest cursor.column
    if indent.all (cursor.column < ·) && cursor.sees '\t' then none
    else if (cursor.peek 0).any isBreak then
      let (text, cursor) := cursor.takeBreak
      readBreaks? indent fuel widest (breaks ++ text) cursor
    else some (widest, breaks, cursor)

/-- Reads the lines of a block scalar that are indented by `indent`. The result ends with the last
line break and the empty lines behind it, which are kept apart. -/
def readLines? (isLiteral : Bool) (indent : Nat) :
    Nat → List Char → List Char → Bool → List Char → Cursor →
      Option (List Char × List Char × List Char × Cursor)
  | 0, text, lineBreak, _, others, cursor => some (text, lineBreak, others, cursor)
  | fuel + 1, text, lineBreak, afterBlank, others, cursor =>
    if cursor.column == indent && !cursor.rest.isEmpty then do
      let startsBlank := (cursor.peek 0).any isBlank
      let folds := !isLiteral && lineBreak == ['\n'] && !afterBlank && !startsBlank
      let between := if folds then Gap.fold lineBreak others else lineBreak ++ others
      let (line, cursor) := cursor.takeWhile fun c => !isBreak c
      let (lineBreak, cursor) := cursor.takeBreak
      let (_, others, cursor) ←
        readBreaks? (some indent) (cursor.rest.length + 1) 0 [] cursor
      readLines? isLiteral indent fuel (text ++ between ++ line) lineBreak startsBlank others cursor
    else some (text, lineBreak, others, cursor)

/-- Reads a block scalar inside something that is indented to a column, or to none at all. -/
def read? (isLiteral : Bool) (around : Option Nat) (cursor : Cursor) : Option ScalarText := do
  let (header, cursor) ← readHeader? (cursor.skip 1)
  let cursor ← cursor.skipLineEnd?
  let stated := header.increment.map (around.getD 0 + ·)
  let (widest, others, cursor) ← readBreaks? stated (cursor.rest.length + 1) 0 [] cursor
  let least := match around with | some column => column + 1 | none => 0
  let indent := stated.getD (max (max widest least) 1)
  let (text, lineBreak, others, cursor) ←
    readLines? isLiteral indent (cursor.rest.length + 1) [] [] false others cursor
  let tail :=
    match header.chomping with
    | .strip => []
    | .clip => lineBreak
    | .keep => lineBreak ++ others
  return ⟨text ++ tail, true, cursor⟩

end Block

end BytePattern.Yaml
