import BytePattern.Pattern.Search
import BytePattern.Pattern.Source
import BytePattern.Text.Encoding

/-!
# Handles

Outside callers work with patterns through numbered handles: they parse a text into a handle, scan
with it and free it. A text is handed over as bytes that end at the first zero byte. Nothing but a
live handle ever matches, and a scan writes only into the slots that it reports.
-/

namespace BytePattern

/-- The pattern behind every handle handed out so far; a null or freed handle has none. -/
structure HandleTable where
  patterns : List (Option Pattern)

namespace HandleTable

def empty : HandleTable := ⟨[]⟩

def pattern? (table : HandleTable) (handle : Nat) : Option Pattern :=
  (table.patterns[handle]?).join

/-- The pattern that the bytes before the first zero byte spell, if they spell one. -/
def patternOfBytes? (bytes : Bytes) : Option Pattern := do
  let text ← Text.decode? (bytes.takeWhile (· != 0))
  (Pattern.compile text).toOption

/-- Hands out the next handle for a text. It is a null handle if there is no text or the text is
no pattern. -/
def parse (table : HandleTable) (text : Option Bytes) : HandleTable :=
  ⟨table.patterns ++ [text.bind patternOfBytes?]⟩

def free (table : HandleTable) (handle : Nat) : HandleTable :=
  ⟨table.patterns.set handle none⟩

/-- Scans the first `length` bytes of the data with a handle and writes offsets into the first
`limit` slots. Without a live handle, data or slots to write into nothing happens. -/
def scan (table : HandleTable) (handle : Option Nat) (data : Option Bytes) (length : Nat)
    (writable : Bool) (limit : Nat) (slots : List (Option Nat)) : Nat × List (Option Nat) :=
  match handle.bind table.pattern?, data with
  | some pattern, some data =>
    if writable && limit != 0 && length != 0 then
      let (count, written) := pattern.scanInto (data.extract 0 length) (slots.take limit)
      (count, written ++ slots.drop limit)
    else (0, slots)
  | _, _ => (0, slots)

/-- What an outside caller asks for. An absent text, handle or block of data stands for a null
pointer, and so do slots that are not writable. -/
inductive Call where
  | parse (text : Option Bytes)
  | free (handle : Option Nat)
  | scan (handle : Option Nat) (data : Option Bytes) (length : Nat) (writable : Bool)
      (limit : Nat) (slots : List (Option Nat))
deriving DecidableEq, Repr

/-- What a call gives back: a handle or a null handle, nothing, or a count together with the
caller's slots as they are then. -/
inductive Answer where
  | parsed (handle : Option Nat)
  | freed
  | scanned (count : Nat) (slots : List (Option Nat))
deriving DecidableEq, Repr

/-- Answers one call. Freeing a null handle does nothing. -/
def perform (table : HandleTable) : Call → Answer × HandleTable
  | .parse text =>
    let handle := table.patterns.length
    let table := table.parse text
    (.parsed ((table.pattern? handle).map fun _ => handle), table)
  | .free none => (.freed, table)
  | .free (some handle) => (.freed, table.free handle)
  | .scan handle data length writable limit slots =>
    let (count, slots) := table.scan handle data length writable limit slots
    (.scanned count slots, table)

/-- Answers calls one after another. -/
def performAll (table : HandleTable) : List Call → List Answer × HandleTable
  | [] => ([], table)
  | call :: rest =>
    let (answer, table) := table.perform call
    let (answers, table) := table.performAll rest
    (answer :: answers, table)

end HandleTable

end BytePattern
