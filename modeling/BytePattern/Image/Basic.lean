import BytePattern.Region

/-!
# Images

An image is an executable file cut into the segments that have bytes in the file. Every segment of
an image lies inside the file, so cutting never fails; each becomes a region at the address at
which the program would see it. A file of no known format is one segment at address zero.
-/

namespace BytePattern

inductive ImageFormat where
  | elf
  | machO
  | pe
  | raw
deriving DecidableEq, Repr

def ImageFormat.text : ImageFormat → String
  | .elf => "Elf"
  | .machO => "MachO"
  | .pe => "Pe"
  | .raw => "Raw"

/-- A segment as a file describes it: where it is seen, and which bytes of the file it has. -/
structure SegmentEntry where
  name : String
  address : UInt64
  offset : UInt64
  size : UInt64
deriving DecidableEq, Repr

namespace SegmentEntry

/-- Whether a segment has bytes in the file at all. -/
def hasBytes (entry : SegmentEntry) : Bool :=
  entry.size != 0

/-- Whether the bytes of a segment lie inside a file of the given size. -/
def Inside (fileSize : Nat) (entry : SegmentEntry) : Prop :=
  entry.offset.toNat + entry.size.toNat ≤ fileSize

instance (fileSize : Nat) (entry : SegmentEntry) : Decidable (entry.Inside fileSize) :=
  inferInstanceAs (Decidable (_ ≤ _))

end SegmentEntry

/-- What keeps a file of a known format from being loaded. -/
inductive ImageError where
  | segmentOutOfBounds (name : String) (offset size : UInt64)
  | addressOverflow (name : String) (base offset : UInt64)
deriving DecidableEq, Repr

def ImageError.message : ImageError → String
  | .segmentOutOfBounds name offset size =>
    s!"Segment {name} lies outside the file (offset {Text.lowerHex offset.toNat}, " ++
      s!"size {Text.lowerHex size.toNat})"
  | .addressOverflow name base offset =>
    s!"Segment {name} at {Text.lowerHex base.toNat} + {Text.lowerHex offset.toNat} " ++
      "is past the end of the address space"

structure Image where
  file : Bytes
  format : ImageFormat
  segments : List SegmentEntry
  /-- Every segment lies inside the file. -/
  inside : ∀ entry ∈ segments, entry.Inside file.size

namespace Image

def region (file : Bytes) (entry : SegmentEntry) : Region where
  name := entry.name
  base := entry.address
  bytes := file.extract entry.offset.toNat (entry.offset.toNat + entry.size.toNat)

/-- The regions of an image, in the order of its segments. -/
def regions (image : Image) : List Region :=
  image.segments.map (region image.file)

/-- The one segment of a file of no known format; an empty file has none. -/
def wholeFile (file : Bytes) : List SegmentEntry :=
  if file.size = 0 then [] else [⟨"raw", 0, 0, UInt64.ofNat file.size⟩]

theorem wholeFile_inside (file : Bytes) :
    ∀ entry ∈ wholeFile file, entry.Inside file.size := by
  intro entry member
  unfold wholeFile at member
  split at member
  · cases member
  · rw [List.mem_singleton] at member
    subst member
    show 0 + (UInt64.ofNat file.size).toNat ≤ file.size
    rw [UInt64.toNat_ofNat']
    have := Nat.mod_le file.size (2 ^ 64)
    omega

def raw (file : Bytes) : Image :=
  ⟨file, .raw, wholeFile file, wholeFile_inside file⟩

/-- Cuts a file into the entries that have bytes. The first of them that does not lie inside the
file is the fault. -/
def ofEntries (file : Bytes) (format : ImageFormat) (entries : List SegmentEntry) :
    Except ImageError Image :=
  let kept := entries.filter SegmentEntry.hasBytes
  match fault : kept.find? fun entry => !decide (entry.Inside file.size) with
  | some entry => .error (.segmentOutOfBounds entry.name entry.offset entry.size)
  | none => .ok ⟨file, format, kept, fun entry member => by
      have := List.find?_eq_none.mp fault entry member
      simpa using this⟩

end Image

end BytePattern
