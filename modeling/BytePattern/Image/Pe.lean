import BytePattern.Image.Basic
import BytePattern.Image.Block
import BytePattern.Text.Encoding

/-!
# PE files

The sections of a PE file. Their addresses are given relative to the image base; an address past
the end of the address space is a fault of the file. Long section names are kept in a table of
strings behind the symbols.
-/

namespace BytePattern.Pe

/-- What follows the two letters of an index that is written in base 64. -/
def base64Digit? (c : Char) : Option Nat :=
  if 'A' ≤ c ∧ c ≤ 'Z' then some (c.toNat - 'A'.toNat)
  else if 'a' ≤ c ∧ c ≤ 'z' then some (c.toNat - 'a'.toNat + 26)
  else if '0' ≤ c ∧ c ≤ '9' then some (c.toNat - '0'.toNat + 52)
  else if c = '+' then some 62
  else if c = '/' then some 63
  else none

/-- The number that digits in base 64 stand for; no digits stand for zero. -/
def base64? (digits : List Char) : Option Nat :=
  digits.foldlM (fun value c => do return value * 64 + (← base64Digit? c)) 0

/-- The text of the bytes before the first zero byte. -/
def terminated? (bytes : List UInt8) : Option String :=
  Text.decode? (bytes.takeWhile (· != 0)).toArray

/-- Where a name that starts with a slash stands in the table of strings: a decimal number follows,
or a second slash and a number in base 64. -/
def stringIndex? : List UInt8 → Option Nat
  | 0x2F :: digits => do base64? (← terminated? digits).toList
  | digits => do return (← Text.word64? 10 (← terminated? digits).toList).toNat

/-- The string that starts at a place of the file. -/
def stringAt? (file : Bytes) (start : Nat) : Option String :=
  if start < file.size then terminated? (file.extract start file.size).toList else none

/-- The name of a section; a short name that is no text counts as empty. -/
def sectionName? (file : Bytes) (strings : Nat) (field : List UInt8) : Option String :=
  match field with
  | 0x2F :: rest => do stringAt? file (strings + (← stringIndex? rest))
  | short => some ((terminated? short).getD "")

/-- A section: its name, its address relative to the image base, and its bytes. -/
structure Section where
  name : String
  relative : UInt64
  offset : UInt64
  size : UInt64

def section? (file : Bytes) (strings : Nat) (header : Block) : Option Section := do
  return {
    name := ← sectionName? file strings (header.field 0 8)
    relative := header.word 12 4
    offset := header.word 20 4
    size := header.word 16 4 }

/-- The image base in the optional header. The header must hold all its fields and directories. -/
def imageBase? (file : Bytes) (start : Nat) : Option UInt64 := do
  let kind := (← Block.read? file .little start 2).number 0 2
  let (size, base, word) ←
    if kind = 0x10B then some (96, 28, 4)
    else if kind = 0x20B then some (112, 24, 8)
    else none
  let header ← Block.read? file .little start size
  let directories := header.number (size - 4) 4
  guard (directories ≤ 16)
  let _ ← Block.read? file .little start (size + 8 * directories)
  return header.word base word

/-- The image base and the sections of a PE file, or none if it is malformed. -/
def sections? (file : Bytes) : Option (UInt64 × List Section) := do
  let start ← Block.read? file .little 0 0x80
  guard (start.field 0 2 = [0x4D, 0x5A])
  let place := start.number 0x3C 4
  let header ← Block.read? file .little place 24
  guard (header.field 0 4 = [0x50, 0x45, 0, 0])
  let optionalSize := header.number 20 2
  let base ← if optionalSize = 0 then some 0 else imageBase? file (place + 24)
  let strings := header.number 12 4 + 18 * header.number 16 4
  let table ← Block.readTable? file .little (place + 24 + optionalSize) 40 (header.number 6 2)
  return (base, ← table.mapM (section? file strings))

def Section.rebase (base : UInt64) (part : Section) : Except ImageError SegmentEntry :=
  match addressAt? base part.relative.toNat with
  | some address => .ok ⟨part.name, address, part.offset, part.size⟩
  | none => .error (.addressOverflow part.name base part.relative)

end BytePattern.Pe
