/-!
# Numerals

Reading and writing unsigned numbers in a given radix. Addresses and bytes are written in
hexadecimal with upper-case letters; a few messages about files use lower-case letters.
-/

namespace BytePattern.Text

/-- The value of a digit below the radix; letters of either case stand for ten and up. -/
def digitValue? (radix : Nat) (c : Char) : Option Nat :=
  let value :=
    if '0' ≤ c ∧ c ≤ '9' then some (c.toNat - '0'.toNat)
    else if 'a' ≤ c ∧ c ≤ 'z' then some (c.toNat - 'a'.toNat + 10)
    else if 'A' ≤ c ∧ c ≤ 'Z' then some (c.toNat - 'A'.toNat + 10)
    else none
  value.filter (· < radix)

/-- Reads the digits that follow a part already worth `value`. -/
def digitsFrom? (radix value : Nat) : List Char → Option Nat
  | [] => some value
  | c :: rest => do
    let digit ← digitValue? radix c
    digitsFrom? radix (value * radix + digit) rest

def digits? (radix : Nat) : List Char → Option Nat
  | [] => none
  | text => digitsFrom? radix 0 text

def word64Digits? (radix : Nat) (text : List Char) : Option UInt64 := do
  let value ← digits? radix text
  if value < UInt64.size then some (UInt64.ofNat value) else none

/-- A number below 2^64 written as digits, with at most one plus sign before them. -/
def word64? (radix : Nat) : List Char → Option UInt64
  | '+' :: text => word64Digits? radix text
  | text => word64Digits? radix text

/-- Which letters stand for the hexadecimal digits from ten to fifteen. -/
inductive Letters where
  | upper
  | lower
deriving DecidableEq, Repr

def Letters.ten : Letters → Char
  | .upper => 'A'
  | .lower => 'a'

def hexDigit (letters : Letters) (value : Nat) : Char :=
  if value < 10 then Char.ofNat ('0'.toNat + value)
  else Char.ofNat (letters.ten.toNat + (value - 10))

/-- The hexadecimal digits of a number, without leading zeros; zero is one digit. -/
def hexDigits (letters : Letters) (value : Nat) : List Char :=
  if value < 16 then [hexDigit letters value]
  else hexDigits letters (value / 16) ++ [hexDigit letters (value % 16)]

/-- A number as bare upper-case hexadecimal digits. -/
def hex (value : Nat) : String :=
  String.ofList (hexDigits .upper value)

/-- An address: `0x` and upper-case hexadecimal digits. -/
def address (value : UInt64) : String :=
  "0x" ++ hex value.toNat

/-- A file offset or size: `0x` and lower-case hexadecimal digits. -/
def lowerHex (value : Nat) : String :=
  "0x" ++ String.ofList (hexDigits .lower value)

/-- A byte as exactly two upper-case hexadecimal digits. -/
def byteDigits (byte : UInt8) : List Char :=
  [hexDigit .upper (byte.toNat / 16), hexDigit .upper (byte.toNat % 16)]

/-- Bytes as pairs of upper-case hexadecimal digits with one space between them. -/
def spacedBytes (bytes : List UInt8) : String :=
  " ".intercalate (bytes.map fun byte => String.ofList (byteDigits byte))

/-- Drops one `0x` or `0X` from the front of a text. -/
def dropHexMark : List Char → List Char
  | '0' :: 'x' :: rest => rest
  | '0' :: 'X' :: rest => rest
  | text => text

/-- Reads an address as it is given on the command line: hexadecimal digits, after an optional
`0x` or `0X`, of a number below 2^64. A plus sign may stand before the digits. -/
def readAddress? (text : List Char) : Option UInt64 :=
  word64? 16 (dropHexMark text)

end BytePattern.Text
