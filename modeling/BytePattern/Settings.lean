/-!
# Scan settings

The limits and options of a scan over regions. Numbers are 64-bit words. The number of threads has
no influence on any answer; it is kept because a settings file carries it.
-/

namespace BytePattern

structure Settings where
  /-- How many matches are listed at most; zero lists none. -/
  maxResults : UInt64 := 1000
  /-- How many bytes of a region one chunk owns. -/
  chunkSize : UInt64 := 0x10000
  /-- Whether chunks are searched side by side, so that no chunk ends the search of the others. -/
  parallel : Bool := true
  threads : UInt64 := 1
  /-- Whether regions shorter than the pattern are left out from the start. -/
  skipEmptyRegions : Bool := true
deriving DecidableEq, Repr

inductive SettingsFault where
  | zeroChunkSize
  | zeroThreads
deriving DecidableEq, Repr

def SettingsFault.message : SettingsFault → String
  | .zeroChunkSize => "chunk_size must be greater than 0"
  | .zeroThreads => "threads must be greater than 0"

namespace Settings

/-- The first fault of the settings; the chunk size is looked at before the threads. -/
def fault? (settings : Settings) : Option SettingsFault :=
  if settings.chunkSize = 0 then some .zeroChunkSize
  else if settings.threads = 0 then some .zeroThreads
  else none

theorem fault?_eq_none_iff {settings : Settings} :
    settings.fault? = none ↔ settings.chunkSize ≠ 0 ∧ settings.threads ≠ 0 := by
  unfold fault?
  split
  · simp_all
  · split <;> simp_all

end Settings

end BytePattern
