import BytePattern.Pattern.Basic
import BytePattern.Text.Numeral

/-!
# Regions

A region is a block of bytes that lies at a base address. Addresses have 64 bits; a region may
reach past the last of them, and its end is then taken as the last address.
-/

namespace BytePattern

/-- The number of addresses, 2^64. -/
def addressLimit : Nat := 0x10000000000000000

/-- The address `offset` bytes behind `base`, unless it is past the last address. -/
def addressAt? (base : UInt64) (offset : Nat) : Option UInt64 :=
  if base.toNat + offset < addressLimit then some (UInt64.ofNat (base.toNat + offset)) else none

structure Region where
  name : String
  base : UInt64
  bytes : Bytes
deriving DecidableEq, Repr

namespace Region

def size (region : Region) : Nat :=
  region.bytes.size

def isEmpty (region : Region) : Bool :=
  region.bytes.isEmpty

/-- The address behind the last byte, or the last address if that is lower. -/
def stop (region : Region) : UInt64 :=
  UInt64.ofNat (min (region.base.toNat + region.size) (addressLimit - 1))

/-- Whether an address lies between the base and the end. -/
def contains (region : Region) (address : UInt64) : Bool :=
  decide (region.base ≤ address) && decide (address < region.stop)

/-- The bytes as the digits of a number, the least significant first. -/
def littleEndian : List UInt8 → Nat
  | [] => 0
  | byte :: rest => byte.toNat + 256 * littleEndian rest

/-- Joins bytes to a word by shifts, from the most significant byte, which is the last one, to the
least significant. -/
def joinBytes (bytes : List UInt8) : UInt64 :=
  bytes.reverse.foldl (fun value byte => value <<< 8 ||| byte.toUInt64) 0

/-- Reads an unsigned number of one to eight bytes, the least significant byte at the address. -/
def readNumber? (region : Region) (address : UInt64) (size : Nat) : Option UInt64 :=
  if size = 0 ∨ 8 < size then none
  else if address < region.base then none
  else
    let offset := address.toNat - region.base.toNat
    if offset + size ≤ region.size then
      some (joinBytes (region.bytes.extract offset (offset + size)).toList)
    else none

/-- The address range of a region, with its name before it unless that is empty. -/
def text (region : Region) : String :=
  let range := s!"[{Text.address region.base} - {Text.address region.stop}]"
  if region.name.isEmpty then range else region.name ++ " " ++ range

end Region

end BytePattern
