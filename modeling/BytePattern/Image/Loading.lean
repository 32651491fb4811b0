import BytePattern.Image.Elf
import BytePattern.Image.MachO
import BytePattern.Image.Pe
import BytePattern.RegionScan

/-!
# Loading images

A file is taken for the first known format that it is a well-formed example of. What is none of
them, a file too short for any of them included, is taken as it is. How the segments are cut out of
the file does not depend on how the format was recognised.
-/

namespace BytePattern.Image

/-- No executable file is shorter. -/
def minimumSize : Nat := 16

/-- What a file is recognised as. -/
inductive Contents where
  /-- Segments that say where they are seen. -/
  | segments (format : ImageFormat) (entries : List SegmentEntry)
  /-- Sections that are placed relative to an image base. -/
  | sections (base : UInt64) (parts : List Pe.Section)
  /-- No known format. -/
  | unknown

/-- Tries the known formats in turn. -/
def contents (file : Bytes) : Contents :=
  match Elf.entries? file with
  | some entries => .segments .elf entries
  | none =>
    match MachO.entries? file with
    | some entries => .segments .machO entries
    | none =>
      match Pe.sections? file with
      | some (base, parts) => .sections base parts
      | none => .unknown

/-- Cuts a file into what it was recognised as. Sections are placed before any of them is cut. -/
def ofContents (file : Bytes) : Contents → Except ImageError Image
  | .segments format entries => ofEntries file format entries
  | .sections base parts => do ofEntries file .pe (← parts.mapM (Pe.Section.rebase base))
  | .unknown => .ok (raw file)

/-- Loads a file with a way of recognising files. -/
def loadWith (recognize : Bytes → Contents) (file : Bytes) : Except ImageError Image :=
  if file.size < minimumSize then .ok (raw file) else ofContents file (recognize file)

def load (file : Bytes) : Except ImageError Image :=
  loadWith contents file

/-- Loads a file and lists the lowest addresses at which the pattern occurs in it. -/
def scanFileWith (recognize : Bytes → Contents) (settings : Settings) (pattern : Pattern)
    (file : Bytes) : Except ImageError (List UInt64) := do
  let image ← loadWith recognize file
  return RegionScan.scan settings pattern image.regions

def scanFile (settings : Settings) (pattern : Pattern) (file : Bytes) :
    Except ImageError (List UInt64) :=
  scanFileWith contents settings pattern file

end BytePattern.Image
