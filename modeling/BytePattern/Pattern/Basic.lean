import BytePattern.ShiftTable

/-!
# Patterns

A pattern is a non-empty list of tokens together with what a search needs: the anchor and the
shift table. Both are determined by the tokens, so two patterns are equal when their tokens are.
-/

namespace BytePattern

abbrev Bytes := Array UInt8

/-- A non-empty token list with its search tables. -/
structure Pattern where
  tokens : List Token
  anchor : Option Anchor
  shifts : ShiftTable
  tokens_ne_nil : tokens ≠ []
  anchor_eq : anchor = Anchor.ofTokens? tokens
  shifts_eq : shifts = ShiftTable.ofTokens tokens

namespace Pattern

/-- Builds the search tables of a token list; an empty list is no pattern. -/
def ofTokens? (tokens : List Token) : Option Pattern :=
  if nonempty : tokens ≠ [] then
    some ⟨tokens, Anchor.ofTokens? tokens, ShiftTable.ofTokens tokens, nonempty, rfl, rfl⟩
  else none

def ofBytes? (bytes : List UInt8) : Option Pattern :=
  ofTokens? (bytes.map .fixed)

@[ext] theorem ext {first second : Pattern} (tokens : first.tokens = second.tokens) :
    first = second := by
  obtain ⟨_, _, _, _, rfl, rfl⟩ := first
  obtain ⟨_, _, _, _, rfl, rfl⟩ := second
  cases tokens
  rfl

instance : DecidableEq Pattern := fun first second =>
  decidable_of_iff (first.tokens = second.tokens) ⟨ext, fun equal => equal ▸ rfl⟩

theorem ofTokens?_eq_none_iff {tokens : List Token} : ofTokens? tokens = none ↔ tokens = [] := by
  simp [ofTokens?]

theorem tokens_of_ofTokens? {tokens : List Token} {pattern : Pattern}
    (built : ofTokens? tokens = some pattern) : pattern.tokens = tokens := by
  unfold ofTokens? at built
  split at built
  · cases built; rfl
  · cases built

def span (pattern : Pattern) : Nat :=
  pattern.tokens.length

theorem span_pos (pattern : Pattern) : 0 < pattern.span :=
  List.length_pos_iff.2 pattern.tokens_ne_nil

theorem anchor_index_lt {pattern : Pattern} {anchor : Anchor}
    (anchored : pattern.anchor = some anchor) : anchor.index < pattern.span :=
  Anchor.index_lt_of_ofTokens? (pattern.anchor_eq ▸ anchored)

/-- The fixed bytes, with zero in place of each wildcard. -/
def bytes (pattern : Pattern) : List UInt8 :=
  pattern.tokens.map fun token => token.byte?.getD 0

/-- The compared bits of every position. -/
def masks (pattern : Pattern) : List UInt8 :=
  pattern.tokens.map Token.mask

def fixedCount (pattern : Pattern) : Nat :=
  pattern.tokens.countP fun token => !token.isWildcard

def wildcardCount (pattern : Pattern) : Nat :=
  pattern.tokens.countP Token.isWildcard

def isAllWildcards (pattern : Pattern) : Bool :=
  pattern.anchor.isNone

/-- The canonical text: the canonical tokens with one space between them. -/
def text (pattern : Pattern) : String :=
  " ".intercalate (pattern.tokens.map Token.text)

/-- How an anchor, or its absence, is described in log messages. -/
def anchorText (pattern : Pattern) : String :=
  match pattern.anchor with
  | none => "None"
  | some anchor => s!"Some(Anchor \x7b index: {anchor.index}, byte: {anchor.byte.toNat} \x7d)"

/-- The full description of a pattern for diagnostics. -/
def description (pattern : Pattern) : String :=
  s!"CompiledPattern \x7b pattern: \"{pattern.text}\", len: {pattern.span}, " ++
    s!"anchor: {pattern.anchorText} \x7d"

end Pattern

end BytePattern
