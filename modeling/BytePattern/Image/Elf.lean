import BytePattern.Image.Basic
import BytePattern.Image.Block

/-!
# ELF files

The loadable program headers of an ELF file, for both word sizes and both byte orders. The sizes of
table entries follow from the word size; what the header says about them is not looked at.
-/

namespace BytePattern.Elf

/-- Where the fields of an ELF file stand: places in the header, in a program header and in a
section header, and the sizes of the three. -/
structure Layout where
  /-- Bytes of a word. -/
  word : Nat
  headerSize : Nat
  programTable : Nat
  sectionTable : Nat
  programCount : Nat
  sectionCount : Nat
  programHeaderSize : Nat
  segmentOffset : Nat
  segmentAddress : Nat
  segmentFileSize : Nat
  sectionHeaderSize : Nat
  sectionSize : Nat

def Layout.narrow : Layout where
  word := 4
  headerSize := 52
  programTable := 28
  sectionTable := 32
  programCount := 44
  sectionCount := 48
  programHeaderSize := 32
  segmentOffset := 4
  segmentAddress := 8
  segmentFileSize := 16
  sectionHeaderSize := 40
  sectionSize := 20

def Layout.wide : Layout where
  word := 8
  headerSize := 64
  programTable := 32
  sectionTable := 40
  programCount := 56
  sectionCount := 60
  programHeaderSize := 56
  segmentOffset := 8
  segmentAddress := 16
  segmentFileSize := 32
  sectionHeaderSize := 64
  sectionSize := 32

def magic : List UInt8 := [0x7F, 0x45, 0x4C, 0x46]

def layoutOfClass? : Nat → Option Layout
  | 1 => some .narrow
  | 2 => some .wide
  | _ => none

def orderOfData? : Nat → Option ByteOrder
  | 1 => some .little
  | 2 => some .big
  | _ => none

/-- Type of a program header whose bytes are loaded into memory. -/
def loadable : Nat := 1

/-- Type of the program header that locates the table for dynamic linking. -/
def dynamic : Nat := 2

/-- Whether the section headers, if the file has any, are all inside the file. A count of zero is
kept in the size field of the first one. -/
def sectionsInside (layout : Layout) (file : Bytes) (header : Block) : Bool :=
  let table := header.number layout.sectionTable layout.word
  if table = 0 then true
  else
    match Block.read? file header.order table layout.sectionHeaderSize with
    | none => false
    | some first =>
      let stated := header.number layout.sectionCount 2
      let count := if stated = 0 then first.number layout.sectionSize layout.word else stated
      (Block.readTable? file header.order table layout.sectionHeaderSize count).isSome

/-- Whether the table for dynamic linking, if a program header locates one, is inside the file. -/
def dynamicInside (layout : Layout) (file : Bytes) (programs : List Block) : Bool :=
  match programs.find? fun program => program.number 0 4 = dynamic with
  | none => true
  | some program =>
    let size := program.number layout.segmentFileSize layout.word
    size = 0 || program.number layout.segmentOffset layout.word + size ≤ file.size

def entry (layout : Layout) (index : Nat) (program : Block) : SegmentEntry where
  name := s!"LOAD{index}"
  address := program.word layout.segmentAddress layout.word
  offset := program.word layout.segmentOffset layout.word
  size := program.word layout.segmentFileSize layout.word

/-- The segments of an ELF file, or none if it is malformed. -/
def entries? (file : Bytes) : Option (List SegmentEntry) := do
  let start ← Block.read? file .little 0 16
  guard (start.field 0 4 = magic)
  let layout ← layoutOfClass? (start.number 4 1)
  let order ← orderOfData? (start.number 5 1)
  let header ← Block.read? file order 0 layout.headerSize
  let programs ← Block.readTable? file order (header.number layout.programTable layout.word)
    layout.programHeaderSize (header.number layout.programCount 2)
  guard (sectionsInside layout file header)
  guard (dynamicInside layout file programs)
  let loaded := programs.filter fun program => program.number 0 4 = loadable
  return loaded.mapIdx fun index program => entry layout index program

end BytePattern.Elf
