import BytePattern.Token

/-!
# Shift tables

A search compares a window of data with a pattern at the pattern's last fixed token, its anchor.
The shift table says how far the next window that could match may lie: for the byte seen at the
anchor, the distance to the nearest earlier token that admits it. The nearest wildcard admits
every byte, so only the run of fixed bytes between that wildcard and the anchor is looked up, and
a byte that does not occur in the run leads just past it.
-/

namespace BytePattern

/-- The last fixed token of a pattern: its index and its byte. -/
structure Anchor where
  index : Nat
  byte : UInt8
deriving DecidableEq, Repr

namespace Anchor

/-- The first fixed token of a reversed token list, counted from the other end. -/
def ofReversed? : List Token → Option Anchor
  | [] => none
  | .fixed byte :: before => some ⟨before.length, byte⟩
  | .wildcard :: before => ofReversed? before

def ofTokens? (tokens : List Token) : Option Anchor :=
  ofReversed? tokens.reverse

theorem index_lt_of_ofReversed? {reversed : List Token} {anchor : Anchor}
    (found : ofReversed? reversed = some anchor) : anchor.index < reversed.length := by
  induction reversed with
  | nil => simp [ofReversed?] at found
  | cons token before ih =>
    cases token with
    | fixed byte =>
      simp only [ofReversed?, Option.some.injEq] at found
      subst found
      simp
    | wildcard =>
      have := ih (by simpa [ofReversed?] using found)
      simp only [List.length_cons]
      omega

theorem index_lt_of_ofTokens? {tokens : List Token} {anchor : Anchor}
    (found : ofTokens? tokens = some anchor) : anchor.index < tokens.length := by
  simpa using index_lt_of_ofReversed? found

/-- The bytes of the leading fixed tokens. -/
def fixedRun : List Token → List UInt8
  | .fixed byte :: rest => byte :: fixedRun rest
  | _ => []

/-- The fixed bytes just before the anchor, nearest first, read off the reversed token list. -/
def runOfReversed : List Token → List UInt8
  | [] => []
  | .fixed _ :: before => fixedRun before
  | .wildcard :: before => runOfReversed before

/-- The unbroken run of fixed bytes just before the anchor, nearest first. -/
def runBefore (tokens : List Token) : List UInt8 :=
  runOfReversed tokens.reverse

end Anchor

/-- A positive distance for every byte. -/
structure ShiftTable where
  distances : Vector Nat 256
  distances_pos : ∀ (i : Nat) (h : i < 256), 0 < distances[i]

namespace ShiftTable

/-- How far to move when this byte stands under the anchor. -/
def get (table : ShiftTable) (byte : UInt8) : Nat :=
  have := byte.toNat_lt
  table.distances[byte.toNat]

theorem get_pos (table : ShiftTable) (byte : UInt8) : 0 < table.get byte :=
  table.distances_pos byte.toNat byte.toNat_lt

def uniform (distance : Nat) (pos : 0 < distance) : ShiftTable where
  distances := Vector.replicate 256 distance
  distances_pos := by
    intro i h
    simpa using pos

def set (table : ShiftTable) (byte : UInt8) (distance : Nat) (pos : 0 < distance) : ShiftTable where
  distances := table.distances.set byte.toNat distance byte.toNat_lt
  distances_pos := by
    intro i h
    rw [Vector.getElem_set]
    split
    · exact pos
    · exact table.distances_pos i h

@[simp] theorem get_uniform (distance : Nat) (pos : 0 < distance) (byte : UInt8) :
    (uniform distance pos).get byte = distance := by
  simp [get, uniform]

theorem get_set (table : ShiftTable) (byte : UInt8) (distance : Nat) (pos : 0 < distance)
    (sought : UInt8) :
    (table.set byte distance pos).get sought = if byte = sought then distance
      else table.get sought := by
  simp only [get, set, Vector.getElem_set, ← UInt8.toNat_inj]

/-- The table for a run of fixed bytes, nearest first, the nearest of them `near + 1` places
before the anchor. Nearer bytes overwrite farther ones. -/
def ofRun : (near : Nat) → List UInt8 → ShiftTable
  | near, [] => uniform (near + 1) (Nat.succ_pos near)
  | near, byte :: farther => (ofRun (near + 1) farther).set byte (near + 1) (Nat.succ_pos near)

/-- The table of a token list. Without a fixed token every distance is one. -/
def ofTokens (tokens : List Token) : ShiftTable :=
  ofRun 0 (Anchor.runBefore tokens)

/-- A byte is moved to its nearest occurrence in the run, or past the run. -/
theorem get_ofRun (near : Nat) (run : List UInt8) (byte : UInt8) :
    (ofRun near run).get byte = near + run.findIdx (· == byte) + 1 := by
  induction run generalizing near with
  | nil => simp [ofRun]
  | cons first farther ih =>
    rw [ofRun, get_set, ih, List.findIdx_cons]
    by_cases h : first = byte
    · simp [h]
    · simp only [if_neg h, cond_eq_ite, beq_iff_eq]
      omega

theorem get_ofTokens (tokens : List Token) (byte : UInt8) :
    (ofTokens tokens).get byte = (Anchor.runBefore tokens).findIdx (· == byte) + 1 := by
  simp [ofTokens, get_ofRun]

end ShiftTable

end BytePattern
