import BytePattern.Text.Numeral

/-!
# Tokens

A token is one byte position of a pattern: a fixed byte or a wildcard. Its text is two hexadecimal
digits of either case, or `?` or `??`; it is always written back as two characters.
-/

namespace BytePattern

inductive Token where
  | fixed (byte : UInt8)
  | wildcard
deriving DecidableEq, Repr

namespace Token

def admits : Token → UInt8 → Bool
  | .fixed byte, found => byte == found
  | .wildcard, _ => true

@[simp] theorem fixed_admits_iff (byte found : UInt8) :
    (fixed byte).admits found = true ↔ byte = found := by
  simp [admits]

@[simp] theorem wildcard_admits (found : UInt8) : wildcard.admits found = true := rfl

def isWildcard : Token → Bool
  | .fixed _ => false
  | .wildcard => true

def byte? : Token → Option UInt8
  | .fixed byte => some byte
  | .wildcard => none

def mask : Token → UInt8
  | .fixed _ => 0xFF
  | .wildcard => 0x00

/-- The value of a hexadecimal digit of either case, given by its byte. -/
def hexValue? (byte : UInt8) : Option UInt8 :=
  if 0x30 ≤ byte ∧ byte ≤ 0x39 then some (byte - 0x30)
  else if 0x61 ≤ byte ∧ byte ≤ 0x66 then some (byte - 0x61 + 10)
  else if 0x41 ≤ byte ∧ byte ≤ 0x46 then some (byte - 0x41 + 10)
  else none

/-- Reads one token from bytes: exactly two hexadecimal digits, or one or two question marks. -/
def ofBytes? : List UInt8 → Option Token
  | [0x3F] => some .wildcard
  | [0x3F, 0x3F] => some .wildcard
  | [high, low] => do
    let high ← hexValue? high
    let low ← hexValue? low
    return .fixed (high <<< 4 ||| low)
  | _ => none

/-- Reads one token from the bytes that a word has in UTF-8. -/
def ofWord? (word : List Char) : Option Token :=
  ofBytes? (word.flatMap String.utf8EncodeChar)

def toWord : Token → List Char
  | .fixed byte => Text.byteDigits byte
  | .wildcard => ['?', '?']

def text (token : Token) : String :=
  String.ofList token.toWord

end Token

end BytePattern
