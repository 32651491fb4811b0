import BytePattern.Json.Fault
import BytePattern.Json.Value

/-!
# JSON codecs

A codec writes values as texts and decodes texts. What a file holds is told to the codec by the
shapes of its records: the names of the fields, which of them must be there, and what a record is
when the others are missing. How the codec reads a text, and how it walks through the tree that it
makes of it, is its own affair.
-/

namespace BytePattern.Json

/-- A field of a record that is decoded into a draft. -/
structure Field (Tree Fault δ : Type) where
  /-- The proper name of the field. -/
  name : String
  /-- Other names that are read as well, but never written. -/
  aliases : List String := []
  isSet : δ → Bool
  decode : Tree → δ → Except Fault δ
  isRequired : Bool := false

/-- A record: what messages call it, its fields in order, and how a draft of it is finished. -/
structure RecordShape (Tree Fault δ ρ : Type) where
  name : String
  empty : δ
  fields : List (Field Tree Fault δ)
  /-- The record with usual values for the fields that are missing; there is none if one of these
  is required. -/
  finish? : δ → Option ρ

/-- The field of a name. -/
def RecordShape.field? {Tree Fault δ ρ : Type} (shape : RecordShape Tree Fault δ ρ)
    (name : String) : Option (Field Tree Fault δ) :=
  shape.fields.find? fun field => field.name = name || field.aliases.contains name

/-- A way of writing and reading JSON. Texts are read as trees, and trees are decoded as values of
the library or have a fault. -/
structure Codec where
  Tree : Type
  Fault : Type
  /-- The compact text of a value. -/
  write : Value → String
  /-- Decodes the tree of a text. -/
  read {α : Type} (decode : Tree → Except Fault α) (text : String) : Except Error α
  bool : Tree → Except Fault Bool
  word : Tree → Except Fault UInt64
  string : Tree → Except Fault String
  nullable {α : Type} (decode : Tree → Except Fault α) : Tree → Except Fault (Option α)
  list {α : Type} (decode : Tree → Except Fault α) : Tree → Except Fault (List α)
  /-- One of several names. -/
  variant {α : Type} (variants : List (String × α)) : Tree → Except Fault α
  record {δ ρ : Type} (shape : RecordShape Tree Fault δ ρ) : Tree → Except Fault ρ

end BytePattern.Json
