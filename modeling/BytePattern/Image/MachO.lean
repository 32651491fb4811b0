import BytePattern.Image.Basic
import BytePattern.Image.Block
import BytePattern.Text.Encoding

/-!
# Mach-O files

The segments of a Mach-O file for one machine. A segment whose bytes are not inside the file makes
the whole file malformed.
-/

namespace BytePattern.MachO

/-- Where the fields of a segment command stand. -/
structure Layout where
  /-- Bytes of a word. -/
  word : Nat
  headerSize : Nat
  /-- The number of the segment command. -/
  command : Nat
  commandSize : Nat
  address : Nat
  offset : Nat
  fileSize : Nat

def Layout.narrow : Layout where
  word := 4
  headerSize := 28
  command := 0x01
  commandSize := 56
  address := 24
  offset := 32
  fileSize := 36

def Layout.wide : Layout where
  word := 8
  headerSize := 32
  command := 0x19
  commandSize := 72
  address := 24
  offset := 40
  fileSize := 48

/-- The word size and the byte order that the first four bytes stand for. -/
def ofMagic? : List UInt8 → Option (Layout × ByteOrder)
  | [0xCE, 0xFA, 0xED, 0xFE] => some (.narrow, .little)
  | [0xCF, 0xFA, 0xED, 0xFE] => some (.wide, .little)
  | [0xFE, 0xED, 0xFA, 0xCE] => some (.narrow, .big)
  | [0xFE, 0xED, 0xFA, 0xCF] => some (.wide, .big)
  | _ => none

/-- The layout of the segment command with the given number, if there is one. Both kinds of
segment command may occur in any file. -/
def segmentLayout? (command : Nat) : Option Layout :=
  if command = Layout.narrow.command then some .narrow
  else if command = Layout.wide.command then some .wide
  else none

/-- The name in a field of fixed size: the zero bytes at its end are no part of it. -/
def name (field : List UInt8) : String :=
  let text := (Text.decode? field.toArray).getD ""
  String.ofList (text.toList.reverse.dropWhile (· == '\x00')).reverse

def entry (layout : Layout) (command : Block) : SegmentEntry where
  name := name (command.field 8 16)
  address := command.word layout.address layout.word
  offset := command.word layout.offset layout.word
  size := command.word layout.fileSize layout.word

/-- The segments of the commands from `start` on. A command says how long it is. -/
def readCommands? (file : Bytes) (order : ByteOrder) (start : Nat) :
    Nat → Option (List SegmentEntry)
  | 0 => some []
  | remaining + 1 => do
    let head ← Block.read? file order start 8
    let next := start + head.number 4 4
    match segmentLayout? (head.number 0 4) with
    | none => readCommands? file order next remaining
    | some layout => do
      let entry := entry layout (← Block.read? file order start layout.commandSize)
      guard (!entry.hasBytes || decide (entry.Inside file.size))
      return entry :: (← readCommands? file order next remaining)

/-- The segments of a Mach-O file, or none if it is malformed. -/
def entries? (file : Bytes) : Option (List SegmentEntry) := do
  let start ← Block.read? file .little 0 Layout.wide.headerSize
  let (layout, order) ← ofMagic? (start.field 0 4)
  let header : Block := ⟨order, start.bytes⟩
  let count := header.number 16 4
  let size := header.number 20 4
  guard (count ≤ size / 8 ∧ size ≤ file.size)
  readCommands? file order layout.headerSize count

end BytePattern.MachO
