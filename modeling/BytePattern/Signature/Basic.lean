import BytePattern.Json.Value

/-!
# Signatures

A signature names an address by the pattern that is found there. When the matches do not all lead
to one address, their number must be the expected count and an index picks one of them. An address
expression may be applied to every match first.
-/

namespace BytePattern

inductive Category where
  | function
  | data
deriving DecidableEq, Repr

def Category.text : Category → String
  | .function => "Function"
  | .data => "Data"

def Category.ofText? (name : String) : Option Category :=
  if name = "Function" then some .function
  else if name = "Data" then some .data
  else none

/-- A named pattern that is expected to identify one address. -/
structure Signature where
  name : String
  category : Category := .data
  description : Option String := none
  pattern : String
  /-- How many matches are expected when they lead to different addresses. -/
  count : UInt64 := 1
  /-- Which of them is meant. -/
  index : UInt64 := 0
  /-- The expression that is applied to every match. -/
  ops : Option String := none
deriving DecidableEq, Repr

namespace Signature

/-- The members of a JSON object for an optional text: none when it is absent. -/
def optionalMember (name : String) : Option String → List (String × Json.Value)
  | some text => [(name, .string text)]
  | none => []

/-- The JSON object of a signature. Absent texts are left out. -/
def toJson (signature : Signature) : Json.Value :=
  .object (
    [("name", .string signature.name), ("category", .string signature.category.text)] ++
    optionalMember "description" signature.description ++
    [("pattern", .string signature.pattern), ("count", .number signature.count.toNat),
      ("index", .number signature.index.toNat)] ++
    optionalMember "ops" signature.ops)

end Signature

structure SignatureFile where
  signatures : List Signature
deriving DecidableEq, Repr

namespace SignatureFile

def toJson (file : SignatureFile) : Json.Value :=
  .object [("signatures", .array (file.signatures.map Signature.toJson))]

end SignatureFile

end BytePattern
