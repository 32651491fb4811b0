import BytePattern.Json.Codec
import BytePattern.Settings

/-!
# Settings in JSON

Settings are stored as a JSON object. A member that is missing leaves the setting as it is.
-/

namespace BytePattern.Settings

structure Draft where
  maxResults : Option UInt64 := none
  chunkSize : Option UInt64 := none
  parallel : Option Bool := none
  threads : Option UInt64 := none
  skipEmptyRegions : Option Bool := none
deriving DecidableEq, Repr

/-- The settings with those of a draft in their places. -/
def withDraft (settings : Settings) (draft : Draft) : Settings where
  maxResults := draft.maxResults.getD settings.maxResults
  chunkSize := draft.chunkSize.getD settings.chunkSize
  parallel := draft.parallel.getD settings.parallel
  threads := draft.threads.getD settings.threads
  skipEmptyRegions := draft.skipEmptyRegions.getD settings.skipEmptyRegions

/-- The fields of settings. What is missing is taken from the given ones. -/
def recordShape (codec : Json.Codec) (settings : Settings) :
    Json.RecordShape codec.Tree codec.Fault Draft Settings where
  name := "struct ScanConfig"
  empty := {}
  fields := [
    { name := "max_results"
      isSet := fun draft => draft.maxResults.isSome
      decode := fun tree draft => do return { draft with maxResults := ← codec.word tree } },
    { name := "chunk_size"
      isSet := fun draft => draft.chunkSize.isSome
      decode := fun tree draft => do return { draft with chunkSize := ← codec.word tree } },
    { name := "parallel"
      isSet := fun draft => draft.parallel.isSome
      decode := fun tree draft => do return { draft with parallel := ← codec.bool tree } },
    { name := "threads"
      isSet := fun draft => draft.threads.isSome
      decode := fun tree draft => do return { draft with threads := ← codec.word tree } },
    { name := "skip_empty_regions"
      isSet := fun draft => draft.skipEmptyRegions.isSome
      decode := fun tree draft => do return { draft with skipEmptyRegions := ← codec.bool tree } }]
  finish? := fun draft => some (settings.withDraft draft)

def ofJson (codec : Json.Codec) (settings : Settings) :
    codec.Tree → Except codec.Fault Settings :=
  codec.record (recordShape codec settings)

def toJson (settings : Settings) : Json.Value :=
  .object [
    ("max_results", .number settings.maxResults.toNat),
    ("chunk_size", .number settings.chunkSize.toNat),
    ("parallel", .bool settings.parallel),
    ("threads", .number settings.threads.toNat),
    ("skip_empty_regions", .bool settings.skipEmptyRegions)]

end BytePattern.Settings
