import BytePattern.Json.Codec
import BytePattern.Json.Node

/-!
# Decoding JSON nodes

A decoder turns a node into a value of the library or into the first fault that it meets, walking
the node from left to right. A record can be written as an object or as the array of its fields.
These decoders and the compact texts of values are the codec that the program reads its files with.
-/

namespace BytePattern.Json

namespace Node

def textOf (pieces : List Piece) : Except Fault String :=
  match joinPieces? pieces with
  | some text => .ok (String.ofList text)
  | none => .error .malformed

def numberOf (numeral : Numeral) : Except Fault Number :=
  match numeral.value? with
  | some value => .ok value
  | none => .error .malformed

/-- The fault of a node that is not what is wanted. -/
def mismatch {α : Type} (wanted : String) : Node → Except Fault α
  | .null stop => .error (.shape (.wrongType .null wanted) stop)
  | .bool value stop => .error (.shape (.wrongType (.bool value) wanted) stop)
  | .number numeral stop => do
    let value ← numberOf numeral
    .error (.shape (.wrongType (Number.found value) wanted) stop)
  | .string pieces stop => do
    let text ← textOf pieces
    .error (.shape (.wrongType (.string text) wanted) stop)
  | .array start _ _ => .error (.shape (.wrongType .array wanted) start)
  | .object start _ _ => .error (.shape (.wrongType .object wanted) start)
  | .broken => .error .malformed

def asBool : Node → Except Fault Bool
  | .bool value _ => .ok value
  | node => node.mismatch "a boolean"

def asString : Node → Except Fault String
  | .string pieces _ => textOf pieces
  | node => node.mismatch "a string"

def asWord : Node → Except Fault UInt64
  | .number numeral stop => do
    match ← numberOf numeral with
    | .natural value => .ok value
    | .negative distance => .error (.shape (.wrongValue (.negative distance) "usize") stop)
    | .real isNegative value =>
      .error (.shape (.wrongType (.real isNegative value) "usize") stop)
  | node => node.mismatch "usize"

def asNullable {α : Type} (decode : Node → Except Fault α) : Node → Except Fault (Option α)
  | .null _ => .ok none
  | node => do return some (← decode node)

def asList {α : Type} (decode : Node → Except Fault α) : Node → Except Fault (List α)
  | .array _ items stop => do
    let values ← items.mapM decode
    match stop with
    | some _ => .ok values
    | none => .error .malformed
  | node => node.mismatch "a sequence"

def asChoice {α : Type} (variants : List (String × α)) : Node → Except Fault α
  | .string pieces stop => do
    let name ← textOf pieces
    match variants.lookup name with
    | some value => .ok value
    | none => .error (.shape (.unknownVariant name (variants.map Prod.fst)) stop)
  | node => node.mismatch "variant identifier"

/-- One of several names. It stands alone, or with null in an object of its own. -/
def asVariant {α : Type} (variants : List (String × α)) : Node → Except Fault α
  | .string pieces stop => asChoice variants (.string pieces stop)
  | .object _ ((name, _, value) :: rest) stop => do
    let chosen ← asChoice variants name
    match value with
    | .null _ => if rest.isEmpty && stop.isSome then .ok chosen else .error .malformed
    | value => value.mismatch "unit"
  | _ => .error .malformed

end Node

namespace RecordShape

variable {δ ρ : Type}

/-- Takes the members of an object in order. Members of other names are skipped. -/
def decodeMembers (shape : RecordShape Node Fault δ ρ) (draft : δ) :
    List (Node × Nat × Node) → Except Fault δ
  | [] => .ok draft
  | (.string pieces _, place, value) :: rest => do
    match shape.field? (← Node.textOf pieces) with
    | some field =>
      if field.isSet draft then .error (.shape (.duplicateField field.name) place)
      else shape.decodeMembers (← field.decode value draft) rest
    | none =>
      if value.isWhole then shape.decodeMembers draft rest else .error .malformed
  | _ => .error .malformed

/-- What messages call a record that is written as an array. -/
def arrayName (shape : RecordShape Node Fault δ ρ) : String :=
  let count := shape.fields.length
  let elements := if count = 1 then "1 element" else s!"{count} elements"
  s!"{shape.name} with {elements}"

/-- Takes the items of an array for the fields in order, `taken` fields having been taken. Only
fields that are not required may be left out. -/
def decodeItems (shape : RecordShape Node Fault δ ρ) (stop : Option Nat) (taken : Nat) (draft : δ) :
    List (Field Node Fault δ) → List Node → Except Fault δ
  | [], [] => if stop.isSome then .ok draft else .error .malformed
  | [], _ :: _ => .error .malformed
  | field :: fields, [] =>
    match stop with
    | none => .error .malformed
    | some place =>
      if field.isRequired then .error (.shape (.wrongLength taken shape.arrayName) place)
      else shape.decodeItems stop (taken + 1) draft fields []
  | field :: fields, item :: items => do
    shape.decodeItems stop (taken + 1) (← field.decode item draft) fields items

/-- Fills a draft from a node. Every required field of the draft is set then. -/
def decodeDraft (shape : RecordShape Node Fault δ ρ) : Node → Except Fault δ
  | .array _ items stop => shape.decodeItems stop 0 shape.empty shape.fields items
  | .object _ members stop => do
    let draft ← shape.decodeMembers shape.empty members
    match stop with
    | none => .error .malformed
    | some place =>
      match shape.fields.find? fun field => field.isRequired && !field.isSet draft with
      | some field => .error (.shape (.missingField field.name) place)
      | none => .ok draft
  | node => node.mismatch shape.name

def decode (shape : RecordShape Node Fault δ ρ) (node : Node) : Except Fault ρ := do
  match shape.finish? (← shape.decodeDraft node) with
  | some record => .ok record
  | none => .error .malformed

end RecordShape

/-- Decodes a text that holds one node and nothing else. -/
def decodeText {α : Type} (decode : Node → Except Fault α) (text : String) : Except Error α :=
  let document := Document.read text.toList
  match decode document.root with
  | .error fault => .error (fault.locate text.toList)
  | .ok value => if document.trailing then .error .malformed else .ok value

/-- The codec of nodes. -/
def codec : Codec where
  Tree := Node
  Fault := Fault
  write := Value.text
  read := decodeText
  bool := Node.asBool
  word := Node.asWord
  string := Node.asString
  nullable := Node.asNullable
  list := Node.asList
  variant := Node.asVariant
  record := RecordShape.decode

end BytePattern.Json
