import BytePattern.Journal
import BytePattern.Pattern.Search
import BytePattern.Region
import BytePattern.Settings

/-!
# Scanning regions

A scan finds the addresses at which a pattern occurs in any of several regions. Regions are taken
in order of their bases and cut into chunks; each chunk owns the matches that start in its own
part and also sees the bytes behind it that such a match may need. Regions may overlap, so the
addresses found are sorted and repeats are dropped. Matches whose address would lie past the last
address are dropped too.
-/

namespace BytePattern

/-- A part of a region: the matches that start in the `owned` bytes from `start` on belong to it.
Its bytes go on far enough for a match to end that starts in the last owned byte. -/
structure Chunk where
  base : UInt64
  start : Nat
  owned : Nat
  bytes : Bytes

namespace Region

def chunkAt (region : Region) (chunkSize span start : Nat) : Chunk :=
  let owned := min chunkSize (region.size - start)
  { base := region.base
    start := start
    owned := owned
    bytes := region.bytes.extract start (start + owned + (span - 1)) }

/-- All chunks of a region, from its first byte to its last. A chunk size of zero counts as one. -/
def chunks (region : Region) (chunkSize span : Nat) : List Chunk :=
  let step := max chunkSize 1
  let count := (region.size + (step - 1)) / step
  (List.range count).map fun index => region.chunkAt step span (index * step)

/-- Regions in order of their bases; regions with the same base keep their order. -/
def sortByBase (regions : List Region) : List Region :=
  regions.mergeSort fun first second => decide (first.base ≤ second.base)

/-- Whether each region ends before the next one begins. -/
def disjoint : List Region → Bool
  | first :: second :: rest => decide (first.stop ≤ second.base) && disjoint (second :: rest)
  | _ => true

end Region

namespace Chunk

/-- What the search of one chunk gives: the lowest addresses and how many matches were seen. -/
structure Finding where
  addresses : List UInt64
  seen : Nat

/-- The address of an occurrence, if the chunk owns it and it has one. -/
def ownAddress? (chunk : Chunk) (offset : Nat) : Option UInt64 :=
  if offset < chunk.owned then addressAt? chunk.base (chunk.start + offset) else none

/-- Goes on with a search for at most `more` occurrences, up to the first without an own address.
An address that still fits under the limit is added to those found. The first one that does not may
end the search; otherwise it is only counted, as are all behind it. -/
def searchOnto (chunk : Chunk) {pattern : Pattern} (limit : Nat) (stopAtLimit : Bool)
    (found : Array UInt64) (seen : Nat) : Nat → Search pattern chunk.bytes → Finding
  | 0, _ => ⟨found.toList, seen⟩
  | more + 1, search =>
    match search.next with
    | (none, _) => ⟨found.toList, seen⟩
    | (some offset, following) =>
      match chunk.ownAddress? offset with
      | none => ⟨found.toList, seen⟩
      | some address =>
        if found.size < limit then
          chunk.searchOnto limit stopAtLimit (found.push address) (seen + 1) more following
        else if stopAtLimit then ⟨found.toList, seen⟩
        else chunk.searchOnto limit stopAtLimit found (seen + 1) more following

/-- Searches one chunk for at most `limit` addresses. With `stopAtLimit` matches past the limit
are not even counted. -/
def search (chunk : Chunk) (pattern : Pattern) (limit : Nat) (stopAtLimit : Bool) : Finding :=
  let search := Search.start pattern chunk.bytes
  chunk.searchOnto limit stopAtLimit #[] 0 search.remaining search

/-- Searches chunks in order until `wanted` addresses have been found. -/
def searchUntil (pattern : Pattern) (limit : Nat) (wanted : Nat) : List Chunk → List Finding
  | [] => []
  | chunk :: rest =>
    let finding := chunk.search pattern limit true
    if wanted ≤ finding.addresses.length then [finding]
    else finding :: searchUntil pattern limit (wanted - finding.addresses.length) rest

end Chunk

namespace RegionScan

/-- The regions of a scan that are searched at all, in order of their bases. -/
def searched (settings : Settings) (pattern : Pattern) (regions : List Region) : List Region :=
  (Region.sortByBase regions).filter fun region =>
    !(settings.skipEmptyRegions && decide (region.size < pattern.span))

/-- The result of a scan: the addresses listed and the number of matches counted. -/
structure Outcome where
  addresses : List UInt64
  total : Nat
deriving DecidableEq, Repr

/-- Puts the findings of all chunks together. When no regions overlap, the counts of the chunks
add up; otherwise a match may have been seen twice and the distinct addresses are counted. -/
def merge (limit : Nat) (disjoint : Bool) (findings : List Chunk.Finding) : Outcome :=
  let sorted := (findings.flatMap Chunk.Finding.addresses).mergeSort fun first second =>
    decide (first ≤ second)
  let distinct := sorted.eraseReps
  let total :=
    if disjoint then (findings.map Chunk.Finding.seen).foldr (· + ·) 0 else distinct.length
  ⟨distinct.take limit, total⟩

/-- Scans the regions. Unless all matches are to be counted, and if no regions overlap, each chunk
stops at the limit, and without parallel search so does the scan as a whole. -/
def run (settings : Settings) (pattern : Pattern) (regions : List Region) (countAll : Bool) :
    Logged Outcome := do
  let limit := settings.maxResults.toNat
  let disjoint := Region.disjoint (Region.sortByBase regions)
  let chunked := (searched settings pattern regions).map fun region =>
    (region, region.chunks settings.chunkSize.toNat pattern.span)
  Logged.noteAll .trace (chunked.map fun (region, chunks) =>
    s!"{region.text}: {chunks.length} chunks")
  let chunks := chunked.flatMap Prod.snd
  Logged.note .debug
    s!"Scanning {regions.length} regions in {chunks.length} chunks for \"{pattern.text}\""
  let chunkLimit := if disjoint then limit else addressLimit - 1
  let early := disjoint && !countAll
  let findings :=
    if early && !settings.parallel then Chunk.searchUntil pattern chunkLimit limit chunks
    else chunks.map fun chunk => chunk.search pattern chunkLimit early
  let outcome := merge limit disjoint findings
  Logged.note .debug s!"Found {outcome.total} matches for \"{pattern.text}\""
  return outcome

/-- The lowest addresses at which the pattern occurs, and what the scan noted. -/
def scanLogged (settings : Settings) (pattern : Pattern) (regions : List Region) :
    Logged (List UInt64) :=
  if settings.maxResults = 0 then return []
  else do return (← run settings pattern regions false).addresses

/-- The lowest addresses at which the pattern occurs, ascending, at most as many as the settings
allow. -/
def scan (settings : Settings) (pattern : Pattern) (regions : List Region) : List UInt64 :=
  (scanLogged settings pattern regions).value

/-- The lowest addresses together with the number of all matches. -/
def scanWithTotal (settings : Settings) (pattern : Pattern) (regions : List Region) : Outcome :=
  (run settings pattern regions true).value

/-- The first match in the first region, by base, that has one. -/
def findFirst (pattern : Pattern) (regions : List Region) : Option UInt64 :=
  (Region.sortByBase regions).findSome? fun region =>
    (pattern.findFirst region.bytes).bind (addressAt? region.base)

end RegionScan

end BytePattern
