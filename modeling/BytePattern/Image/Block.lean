import BytePattern.Region

/-!
# Blocks of a file

Executable files describe themselves in tables of fixed layout. A block is a run of bytes that lies
inside a file; the numbers in it stand at fixed places, in the byte order of the file.
-/

namespace BytePattern

inductive ByteOrder where
  | little
  | big
deriving DecidableEq, Repr

/-- The number that bytes stand for. -/
def ByteOrder.number (order : ByteOrder) (bytes : List UInt8) : Nat :=
  match order with
  | .little => Region.littleEndian bytes
  | .big => Region.littleEndian bytes.reverse

/-- A run of bytes of a file and the order of the numbers in it. -/
structure Block where
  order : ByteOrder
  bytes : List UInt8

namespace Block

/-- The `size` bytes from `start` on, if all of them lie inside the file. -/
def read? (file : Bytes) (order : ByteOrder) (start size : Nat) : Option Block :=
  if start + size ≤ file.size then some ⟨order, (file.extract start (start + size)).toList⟩
  else none

/-- Consecutive blocks of one size. A file never holds more of them than fit into its size. -/
def readTable? (file : Bytes) (order : ByteOrder) (start size count : Nat) :
    Option (List Block) :=
  if file.size / size < count then none
  else (List.range count).mapM fun index => read? file order (start + index * size) size

def field (block : Block) (start size : Nat) : List UInt8 :=
  (block.bytes.drop start).take size

/-- The number in a field. -/
def number (block : Block) (start size : Nat) : Nat :=
  block.order.number (block.field start size)

/-- The number in a field of at most eight bytes as a word. -/
def word (block : Block) (start size : Nat) : UInt64 :=
  UInt64.ofNat (block.number start size)

end Block

end BytePattern
