import BytePattern.Pattern.Basic

/-!
# Searching bytes for a pattern

A search walks through a block of bytes and yields the offsets of all occurrences in ascending
order, overlapping ones included. Each window is tested at the anchor first; whatever the outcome,
the position then moves on by the shift of the byte under the anchor, which passes over no possible
occurrence. A pattern of wildcards alone occurs wherever it fits.
-/

namespace BytePattern

namespace Pattern

/-- Whether the bytes from an offset on admit the tokens, one byte a token. -/
def admitsFrom (data : Bytes) : List Token → Nat → Bool
  | [], _ => true
  | token :: rest, offset =>
    match data[offset]? with
    | some byte => token.admits byte && admitsFrom data rest (offset + 1)
    | none => false

/-- Whether the pattern occurs at an offset. A window that leaves the data never matches. -/
def matchesAt (pattern : Pattern) (data : Bytes) (offset : Nat) : Bool :=
  admitsFrom data pattern.tokens offset

/-- One past the last offset at which the whole pattern fits into the data. -/
def searchEnd (pattern : Pattern) (data : Bytes) : Nat :=
  data.size + 1 - pattern.span

/-- From a position on, the first occurrence and the position after it; without an occurrence,
the first position at which the pattern no longer fits. -/
def seek (pattern : Pattern) (data : Bytes) (anchor : Anchor)
    (anchored : pattern.anchor = some anchor) (stop : Nat) (bound : stop = pattern.searchEnd data)
    (position : Nat) : Option Nat × Nat :=
  if fits : position < stop then
    have inside : position + anchor.index < data.size := by
      have := anchor_index_lt anchored
      unfold searchEnd at bound
      omega
    let byte := data[position + anchor.index]
    let following := position + pattern.shifts.get byte
    if byte == anchor.byte && pattern.matchesAt data position then (some position, following)
    else seek pattern data anchor anchored stop bound following
  else (none, position)
termination_by stop - position
decreasing_by
  exact Nat.sub_lt_sub_left fits (Nat.lt_add_of_pos_right (pattern.shifts.get_pos _))

end Pattern

/-- A lazy search: the place from which the next occurrence is sought. -/
structure Search (pattern : Pattern) (data : Bytes) where
  position : Nat
deriving DecidableEq, Repr

namespace Search

variable {pattern : Pattern} {data : Bytes}

def start (pattern : Pattern) (data : Bytes) : Search pattern data :=
  ⟨0⟩

/-- The next occurrence, if any, and the search that goes on behind it. -/
def next (search : Search pattern data) : Option Nat × Search pattern data :=
  match anchored : pattern.anchor with
  | none =>
    if search.position < pattern.searchEnd data then
      (some search.position, ⟨search.position + 1⟩)
    else (none, search)
  | some anchor =>
    let (found, position) := pattern.seek data anchor anchored _ rfl search.position
    (found, ⟨position⟩)

/-- A bound on the number of occurrences still to come. -/
def remaining (search : Search pattern data) : Nat :=
  pattern.searchEnd data - search.position

/-- Yields at most `count` occurrences after those already in `found`. -/
def takeOnto (found : Array Nat) : Nat → Search pattern data → Array Nat × Search pattern data
  | 0, search => (found, search)
  | count + 1, search =>
    match search.next with
    | (some offset, following) => takeOnto (found.push offset) count following
    | (none, following) => (found, following)

def take (count : Nat) (search : Search pattern data) : Array Nat × Search pattern data :=
  search.takeOnto #[] count

def rest (search : Search pattern data) : Array Nat × Search pattern data :=
  search.take search.remaining

/-- Writes an occurrence into each slot until the slots or the occurrences come to an end; the slots
behind that are left alone. Returns how many have been written, `count` of them before, and the
slots. -/
def writeInto (count : Nat) :
    List (Option Nat) → Search pattern data → Nat × List (Option Nat)
  | [], _ => (count, [])
  | slot :: slots, search =>
    match search.next with
    | (some offset, following) =>
      let (count, written) := writeInto (count + 1) slots following
      (count, some offset :: written)
    | (none, _) => (count, slot :: slots)

/-- Passes over `count` occurrences and yields the one after them. -/
def nth : Nat → Search pattern data → Option Nat × Search pattern data
  | 0, search => search.next
  | count + 1, search =>
    match search.next with
    | (some _, following) => nth count following
    | (none, following) => (none, following)

end Search

namespace Pattern

/-- The leftmost occurrences, at most `limit` of them. -/
def scan (pattern : Pattern) (data : Bytes) (limit : Nat) : Array Nat :=
  ((Search.start pattern data).take limit).1

def scanAll (pattern : Pattern) (data : Bytes) : Array Nat :=
  (Search.start pattern data).rest.1

def findFirst (pattern : Pattern) (data : Bytes) : Option Nat :=
  (Search.start pattern data).next.1

def countIn (pattern : Pattern) (data : Bytes) : Nat :=
  (pattern.scanAll data).size

/-- Writes the leftmost occurrences into the slots and returns how many were written. -/
def scanInto (pattern : Pattern) (data : Bytes) (slots : List (Option Nat)) :
    Nat × List (Option Nat) :=
  (Search.start pattern data).writeInto 0 slots

end Pattern

end BytePattern
