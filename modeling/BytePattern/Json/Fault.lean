import BytePattern.Json.Number
import BytePattern.Text.Printable

/-!
# Faults of JSON texts

Why a text does not hold what is wanted: it is malformed, or it has the wrong shape at some place.
Messages tell what was found and what was wanted, and the line and column of the place.
-/

namespace BytePattern.Json

/-- How one character stands in a text that a message quotes: characters that would not be seen are
given by their codes. -/
def quotedCharacter (c : Char) : List Char :=
  if c = '"' then ['\\', '"']
  else if c = '\\' then ['\\', '\\']
  else if c = '\n' then ['\\', 'n']
  else if c = '\r' then ['\\', 'r']
  else if c = '\t' then ['\\', 't']
  else if c = '\x00' then ['\\', '0']
  else if Text.isPrintable c then [c]
  else ['\\', 'u', '\x7b'] ++ Text.hexDigits .lower c.toNat ++ ['\x7d']

def quotation (text : String) : String :=
  String.ofList ('"' :: text.toList.flatMap quotedCharacter ++ ['"'])

def marked (text : String) : String :=
  "\x60" ++ text ++ "\x60"

/-- What a text holds where something else is wanted. -/
inductive Found where
  | null
  | bool (value : Bool)
  | natural (value : UInt64)
  | negative (distance : Nat)
  | real (isNegative : Bool) (value : Binary64)
  | string (text : String)
  | array
  | object
deriving DecidableEq, Repr

def Found.text : Found → String
  | .null => "null"
  | .bool value => "boolean " ++ marked (if value then "true" else "false")
  | .natural value => "integer " ++ marked (toString value.toNat)
  | .negative distance => "integer " ++ marked ("-" ++ toString distance)
  | .real isNegative value =>
    "floating point " ++ marked ((if isNegative then "-" else "") ++ realText value)
  | .string text => "string " ++ quotation text
  | .array => "sequence"
  | .object => "map"

/-- Why a well-formed text does not hold the wanted value. -/
inductive ShapeFault where
  | wrongType (found : Found) (wanted : String)
  | wrongValue (found : Found) (wanted : String)
  | wrongLength (length : Nat) (wanted : String)
  | missingField (name : String)
  | duplicateField (name : String)
  | unknownVariant (name : String) (variants : List String)
deriving DecidableEq, Repr

def ShapeFault.message : ShapeFault → String
  | .wrongType found wanted => s!"invalid type: {found.text}, expected {wanted}"
  | .wrongValue found wanted => s!"invalid value: {found.text}, expected {wanted}"
  | .wrongLength length wanted => s!"invalid length {length}, expected {wanted}"
  | .missingField name => "missing field " ++ marked name
  | .duplicateField name => "duplicate field " ++ marked name
  | .unknownVariant name variants =>
    s!"unknown variant {marked name}, expected " ++ " or ".intercalate (variants.map marked)

/-- Why a text holds no value: it is malformed, or it has the wrong shape at some byte. -/
inductive Fault where
  | malformed
  | shape (fault : ShapeFault) (place : Nat)
deriving DecidableEq, Repr

def Number.found : Number → Found
  | .natural value => .natural value
  | .negative distance => .negative distance
  | .real isNegative value => .real isNegative value

/-- The line and the column of a byte of a text, as messages count them: lines from one, columns
from zero in bytes. -/
def lineAndColumn (text : List Char) (place line column : Nat) : Nat × Nat :=
  match text with
  | [] => (line, column)
  | c :: rest =>
    if place < c.utf8Size then (line, column)
    else if c = '\n' then lineAndColumn rest (place - 1) (line + 1) 0
    else lineAndColumn rest (place - c.utf8Size) line (column + c.utf8Size)

inductive Error where
  | malformed
  | shape (fault : ShapeFault) (line column : Nat)
deriving DecidableEq, Repr

def Error.message : Error → String
  | .malformed => "malformed text"
  | .shape fault line column => s!"{fault.message} at line {line} column {column}"

def Fault.locate (text : List Char) : Fault → Error
  | .malformed => .malformed
  | .shape fault place =>
    let (line, column) := lineAndColumn text place 1 0
    .shape fault line column

end BytePattern.Json
