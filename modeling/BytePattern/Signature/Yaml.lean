import BytePattern.Signature.Draft
import BytePattern.Yaml.Decode

/-!
# Signature files in YAML

A signature file is a mapping with a list of signatures, under either of two names. A field may be
given once; other fields are skipped.
-/

namespace BytePattern

namespace Signature

/-- Takes one entry of the mapping of a signature. -/
def takeYaml? (document : Yaml.Document) (name : String) (value : Yaml.Node) (draft : Draft) :
    Option Draft :=
  match name with
  | "name" =>
    if draft.name.isSome then none
    else do return { draft with name := ← document.string? value }
  | "category" =>
    if draft.category.isSome then none
    else do
      let variants := [Category.function, .data].map fun category => (category.text, category)
      return { draft with category := ← document.variant? variants value }
  | "description" | "desc" =>
    if draft.description.isSome then none
    else do return { draft with description := ← document.nullableString? value }
  | "pattern" =>
    if draft.pattern.isSome then none
    else do return { draft with pattern := ← document.string? value }
  | "count" =>
    if draft.count.isSome then none
    else do return { draft with count := ← document.word? value }
  | "index" =>
    if draft.index.isSome then none
    else do return { draft with index := ← document.word? value }
  | "ops" =>
    if draft.ops.isSome then none
    else do return { draft with ops := ← document.nullableString? value }
  | _ => some draft

def ofYaml? (document : Yaml.Document) (node : Yaml.Node) : Option Signature := do
  (← document.record? (takeYaml? document) {} node).finish?

end Signature

namespace SignatureFile

/-- Takes one entry of the mapping of a signature file. -/
def takeYaml? (document : Yaml.Document) (name : String) (value : Yaml.Node)
    (draft : Option (List Signature)) : Option (Option (List Signature)) :=
  match name with
  | "signatures" | "patterns" =>
    if draft.isSome then none
    else do return some (← document.list? (Signature.ofYaml? document) value)
  | _ => some draft

def ofYaml? (text : String) : Option SignatureFile := do
  let document ← Yaml.Document.ofText? text
  return ⟨← (← document.record? (takeYaml? document) none document.root)⟩

end SignatureFile

end BytePattern
