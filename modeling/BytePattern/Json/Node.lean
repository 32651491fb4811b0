import BytePattern.Json.Lexeme

/-!
# JSON nodes

The tree of a JSON text. A text that is broken at some place still has a tree: what stands before
that place is in it, and the broken place is a node of its own. So a reader that walks the tree from
left to right meets the faults of a text in the order in which they stand there. Nodes keep the
places that messages tell, counted in bytes.
-/

namespace BytePattern.Json

inductive Node where
  | null (stop : Nat)
  | bool (value : Bool) (stop : Nat)
  | number (numeral : Numeral) (stop : Nat)
  | string (pieces : List Piece) (stop : Nat)
  /-- An array, from its bracket on; it stops nowhere if it is broken behind its last item. -/
  | array (start : Nat) (items : List Node) (stop : Option Nat)
  /-- An object, from its brace on; it stops nowhere if it is broken behind its last member. A
  member is a name, the place where the text goes on behind the name, and a value. -/
  | object (start : Nat) (members : List (Node × Nat × Node)) (stop : Option Nat)
  | broken
deriving Repr

namespace Node

/-- Where the text goes on in front of some lexemes; behind a brace if that is the first of them,
because the object is closed right there. -/
def placeOf (fallback : Nat) : List Placed → Nat
  | [] => fallback
  | ⟨.closeBrace, _, stop⟩ :: _ => stop
  | ⟨_, start, _⟩ :: _ => start

mutual

/-- Reads the node at the front of some lexemes. Two levels of the recursion take at least one
lexeme, so twice as many levels as there are lexemes are enough. -/
def read (fuel : Nat) (lexemes : List Placed) : Node × List Placed :=
  match fuel, lexemes with
  | 0, rest => (.broken, rest)
  | _, [] => (.broken, [])
  | fuel + 1, ⟨lexeme, start, stop⟩ :: rest =>
    match lexeme with
    | .null => (.null stop, rest)
    | .bool value => (.bool value stop, rest)
    | .number numeral => (.number numeral stop, rest)
    | .string pieces => (.string pieces stop, rest)
    | .openBracket =>
      match rest with
      | ⟨.closeBracket, _, stop⟩ :: rest => (.array start [] (some stop), rest)
      | _ =>
        let (items, stop, rest) := readItems fuel rest
        (.array start items stop, rest)
    | .openBrace =>
      match rest with
      | ⟨.closeBrace, _, stop⟩ :: rest => (.object start [] (some stop), rest)
      | _ =>
        let (members, stop, rest) := readMembers fuel rest
        (.object start members stop, rest)
    | _ => (.broken, rest)

/-- Reads one or more items of an array up to its bracket. -/
def readItems (fuel : Nat) (lexemes : List Placed) : List Node × Option Nat × List Placed :=
  match fuel with
  | 0 => ([.broken], none, lexemes)
  | fuel + 1 =>
    let (item, rest) := read fuel lexemes
    match rest with
    | ⟨.comma, _, _⟩ :: rest =>
      let (items, stop, rest) := readItems fuel rest
      (item :: items, stop, rest)
    | ⟨.closeBracket, _, stop⟩ :: rest => ([item], some stop, rest)
    | rest => ([item], none, rest)

/-- Reads one or more members of an object up to its brace. -/
def readMembers (fuel : Nat) (lexemes : List Placed) :
    List (Node × Nat × Node) × Option Nat × List Placed :=
  match fuel with
  | 0 => ([], none, lexemes)
  | fuel + 1 =>
    let (name, rest) := read fuel lexemes
    let place := placeOf 0 rest
    match rest with
    | ⟨.colon, _, _⟩ :: rest =>
      let (value, rest) := read fuel rest
      match rest with
      | ⟨.comma, _, _⟩ :: rest =>
        let (members, stop, rest) := readMembers fuel rest
        ((name, place, value) :: members, stop, rest)
      | ⟨.closeBrace, _, stop⟩ :: rest => ([(name, place, value)], some stop, rest)
      | rest => ([(name, place, value)], none, rest)
    | rest => ([(name, place, .broken)], none, rest)

end

mutual

/-- Whether the text of a node is well formed. Halves of characters in its strings do no harm. -/
def isWhole : Node → Bool
  | .array _ items stop => itemsWhole items && stop.isSome
  | .object _ members stop => membersWhole members && stop.isSome
  | .broken => false
  | .null _ => true
  | .bool _ _ => true
  | .number _ _ => true
  | .string _ _ => true

def itemsWhole : List Node → Bool
  | [] => true
  | item :: rest => item.isWhole && itemsWhole rest

def membersWhole : List (Node × Nat × Node) → Bool
  | [] => true
  | (.string _ _, _, value) :: rest => value.isWhole && membersWhole rest
  | _ => false

end

end Node

/-- A JSON text: its first node, and whether anything follows it. -/
structure Document where
  root : Node
  trailing : Bool

def Document.read (text : List Char) : Document :=
  let lexemes := Json.lexemes text
  let (root, rest) := Node.read (2 * lexemes.length) lexemes
  ⟨root, !rest.isEmpty⟩

end BytePattern.Json
