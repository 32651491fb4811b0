import BytePattern.Signature.Basic

/-!
# Drafts of signatures

What has been read of a signature so far. A field that was not read keeps its usual value in the
end; only the name and the pattern have to be there.
-/

namespace BytePattern.Signature

/-- The fields of a signature that have been read. -/
structure Draft where
  name : Option String := none
  category : Option Category := none
  description : Option (Option String) := none
  pattern : Option String := none
  count : Option UInt64 := none
  index : Option UInt64 := none
  ops : Option (Option String) := none
deriving DecidableEq, Repr

namespace Draft

/-- The finished signature, if its name and its pattern have been read. -/
def finish? (draft : Draft) : Option Signature := do
  return {
    name := ← draft.name
    category := draft.category.getD .data
    description := draft.description.getD none
    pattern := ← draft.pattern
    count := draft.count.getD 1
    index := draft.index.getD 0
    ops := draft.ops.getD none }

end Draft

end BytePattern.Signature
