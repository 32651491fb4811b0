import BytePattern.Pattern.Source
import BytePattern.RegionScan

/-!
# Generating patterns

The pattern generated for an address is the shortest run of bytes from that address on, but not
shorter than five bytes if so many are allowed, that occurs nowhere else in the regions.
-/

namespace BytePattern

inductive GenerationError where
  | unknownAddress (address : UInt64)
  | invalidPattern (reason : PatternError)
  | patternTooLong (limit : Nat)
deriving DecidableEq, Repr

def GenerationError.message : GenerationError → String
  | .unknownAddress address => s!"Address {Text.address address} is not inside any region"
  | .invalidPattern reason => "Invalid pattern: " ++ reason.message
  | .patternTooLong limit => s!"No unique pattern found within {limit} bytes"

namespace Generation

/-- No pattern is shorter unless the bytes end. -/
def minimumLength : Nat := 5

/-- The longest pattern that is tried unless told otherwise. -/
def defaultMaximumLength : Nat := 256

/-- What the search for a pattern has come to after one length. -/
inductive Attempt where
  | settled (result : Except GenerationError Pattern)
  | repeated

/-- Tries the pattern of the first `length` of the available bytes. -/
def tryLength (settings : Settings) (regions : List Region) (address : UInt64)
    (available : List UInt8) (length : Nat) : Logged Attempt :=
  match Pattern.ofTokens ((available.take length).map .fixed) with
  | .error reason => return .settled (.error (.invalidPattern reason))
  | .ok pattern => do
    let found ← RegionScan.scanLogged settings pattern regions
    if found = [address] then
      Logged.note .info s!"Generated pattern for {Text.address address}: \"{pattern.text}\""
      return .settled (.ok pattern)
    else return .repeated

/-- Tries the given lengths in order; `limit` is the last of them. -/
def tryLengths (settings : Settings) (regions : List Region) (address : UInt64)
    (available : List UInt8) (limit : Nat) : List Nat → Logged (Except GenerationError Pattern)
  | [] => do
    Logged.note .error s!"No unique pattern for {Text.address address} within {limit} bytes"
    return .error (.patternTooLong limit)
  | length :: rest => do
    match ← tryLength settings regions address available length with
    | .settled result => return result
    | .repeated => tryLengths settings regions address available limit rest

/-- Generates a pattern for an address and notes the outcome. The bytes are those of the first
region that contains the address. Two matches are enough to know that a pattern is not unique. -/
def generateLogged (settings : Settings) (maximumLength : Nat) (regions : List Region)
    (address : UInt64) : Logged (Except GenerationError Pattern) :=
  match regions.find? fun region => region.contains address with
  | none => return .error (.unknownAddress address)
  | some region =>
    let offset := address.toNat - region.base.toNat
    let longest := max maximumLength 1
    let available := (region.bytes.extract offset (offset + longest)).toList
    let limit := available.length
    let first := min minimumLength limit
    tryLengths { settings with maxResults := 2 } regions address available limit
      (List.range' first (limit + 1 - first))

def generate (settings : Settings) (maximumLength : Nat) (regions : List Region)
    (address : UInt64) : Except GenerationError Pattern :=
  (generateLogged settings maximumLength regions address).value

end Generation

end BytePattern
