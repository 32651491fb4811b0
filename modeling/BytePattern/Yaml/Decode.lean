import BytePattern.Text.Numeral
import BytePattern.Yaml.Node
import BytePattern.Yaml.Scanner

/-!
# Decoding YAML nodes

A decoder turns a node into a value of the library, if the node holds one. Aliases are followed.
What a scalar stands for depends on the value that is wanted: every scalar is a text as it is
written, while numbers and null must be plain.
-/

namespace BytePattern.Yaml

/-- A document: its root, and the nodes that aliases refer to. -/
structure Document where
  root : Node
  anchored : List (Nat × Node)

def Document.ofText? (text : String) : Option Document := do
  let root ← Document.read? (← tokens? text)
  return ⟨root, root.anchored⟩

def standardTag (name : String) : String :=
  "tag:yaml.org,2002:" ++ name

def isNull (text : String) : Bool :=
  ["null", "Null", "NULL", "~"].contains text

namespace Document

/-- The node that an alias refers to, the last one with its number; other nodes are themselves. -/
def follow? (document : Document) : Node → Option Node
  | .alias anchor => document.anchored.reverse.lookup anchor
  | node => some node

def string? (document : Document) (node : Node) : Option String := do
  match ← document.follow? node with
  | .scalar _ _ _ text => return text
  | _ => none

def nullableString? (document : Document) (node : Node) : Option (Option String) := do
  match ← document.follow? node with
  | .scalar _ tag .plain text =>
    match tag with
    | none => if text.isEmpty || isNull text then return none else return some text
    | some tag =>
      if tag ≠ standardTag "null" then return some text
      else if isNull text then return none
      else none
  | .scalar _ _ _ text => return some text
  | _ => none

/-- A number of 64 bits: decimal without leading zeros, or in hexadecimal, octal or binary digits
behind a mark; a plus sign may stand in front. -/
def word (text : List Char) : Option UInt64 :=
  let unsigned := match text with | '+' :: rest => rest | text => text
  match unsigned with
  | '0' :: 'x' :: digits => Text.word64Digits? 16 digits
  | '0' :: 'o' :: digits => Text.word64Digits? 8 digits
  | '0' :: 'b' :: digits => Text.word64Digits? 2 digits
  | '0' :: _ :: _ => none
  | digits => Text.word64Digits? 10 digits

/-- A number of 64 bits. It is plain, or a literal block that is tagged as a number. -/
def word? (document : Document) (node : Node) : Option UInt64 := do
  match ← document.follow? node with
  | .scalar _ _ .plain text => word text.toList
  | .scalar _ tag .literal text => if tag = some (standardTag "int") then word text.toList else none
  | _ => none

/-- One of several names: as a text, or as a private tag of a plain node that is empty or null. -/
def variant? {α : Type} (document : Document) (variants : List (String × α)) (node : Node) :
    Option α := do
  match ← document.follow? node with
  | .scalar _ tag style text =>
    match tag.map String.toList with
    | some ('!' :: c :: name) =>
      if style = .plain ∧ (text.isEmpty ∨ isNull text) then
        variants.lookup (String.ofList (c :: name))
      else none
    | _ => variants.lookup text
  | _ => none

/-- A list of values; an empty node is an empty list. -/
def list? {α : Type} (document : Document) (decode? : Node → Option α) (node : Node) :
    Option (List α) := do
  match ← document.follow? node with
  | .sequence _ items => items.mapM decode?
  | .scalar _ _ .plain text => if text.isEmpty then return [] else none
  | _ => none

/-- Takes the entries of a mapping for the fields of a draft: `take? name value draft` is none if
the field cannot be taken, and some draft as it was if there is no such field. -/
def takeEntries? {δ : Type} (document : Document) (take? : String → Node → δ → Option δ)
    (draft : δ) : List (Node × Node) → Option δ
  | [] => some draft
  | (key, value) :: rest => do
    document.takeEntries? take? (← take? (← document.string? key) value draft) rest

/-- A record that is written as a mapping; an empty node is one without any entries. -/
def record? {δ : Type} (document : Document) (take? : String → Node → δ → Option δ) (empty : δ)
    (node : Node) : Option δ := do
  match ← document.follow? node with
  | .mapping _ entries => document.takeEntries? take? empty entries
  | .scalar _ _ .plain text => if text.isEmpty then return empty else none
  | _ => none

end Document

end BytePattern.Yaml
