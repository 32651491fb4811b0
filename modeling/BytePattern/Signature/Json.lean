import BytePattern.Json.Codec
import BytePattern.Signature.Draft

/-!
# Signature files in JSON

A signature file is an object with a list of signatures, under either of two names. What the names
and shapes of its fields are does not depend on the codec that the file is read with.
-/

namespace BytePattern

namespace Signature

/-- The fields of a signature. The draft that they fill tells the usual values of those that may be
missing. -/
def recordShape (codec : Json.Codec) :
    Json.RecordShape codec.Tree codec.Fault Draft Signature where
  name := "struct Signature"
  empty := {}
  fields := [
    { name := "name"
      isSet := fun draft => draft.name.isSome
      decode := fun tree draft => do return { draft with name := ← codec.string tree }
      isRequired := true },
    { name := "category"
      isSet := fun draft => draft.category.isSome
      decode := fun tree draft => do
        let variants := [Category.function, .data].map fun category => (category.text, category)
        return { draft with category := ← codec.variant variants tree } },
    { name := "description"
      aliases := ["desc"]
      isSet := fun draft => draft.description.isSome
      decode := fun tree draft => do
        return { draft with description := ← codec.nullable codec.string tree } },
    { name := "pattern"
      isSet := fun draft => draft.pattern.isSome
      decode := fun tree draft => do return { draft with pattern := ← codec.string tree }
      isRequired := true },
    { name := "count"
      isSet := fun draft => draft.count.isSome
      decode := fun tree draft => do return { draft with count := ← codec.word tree } },
    { name := "index"
      isSet := fun draft => draft.index.isSome
      decode := fun tree draft => do return { draft with index := ← codec.word tree } },
    { name := "ops"
      isSet := fun draft => draft.ops.isSome
      decode := fun tree draft => do
        return { draft with ops := ← codec.nullable codec.string tree } }]
  finish? := Draft.finish?

def ofJson (codec : Json.Codec) : codec.Tree → Except codec.Fault Signature :=
  codec.record (recordShape codec)

end Signature

namespace SignatureFile

def recordShape (codec : Json.Codec) :
    Json.RecordShape codec.Tree codec.Fault (Option (List Signature)) SignatureFile where
  name := "struct SignatureFile"
  empty := none
  fields := [
    { name := "signatures"
      aliases := ["patterns"]
      isSet := fun draft => draft.isSome
      decode := fun tree _ => do return some (← codec.list (Signature.ofJson codec) tree)
      isRequired := true }]
  finish? := fun draft => draft.map SignatureFile.mk

def ofJson (codec : Json.Codec) : codec.Tree → Except codec.Fault SignatureFile :=
  codec.record (recordShape codec)

end SignatureFile

end BytePattern
