import BytePattern.Expression.Evaluation
import BytePattern.Expression.Reader
import BytePattern.Pattern.Source
import BytePattern.RegionScan
import BytePattern.Signature.Basic

/-!
# Resolving signatures

Resolving a signature collects every match of its pattern, whatever the limit of the settings, and
applies its expression to each; matches without a value are dropped. Values that all agree are the
address, whatever the count and the index say.
-/

namespace BytePattern

inductive Resolution where
  | resolved (address : UInt64)
  | notFound
  | countMismatch (expected : UInt64) (found : Nat)
  | indexOutOfRange (index : UInt64) (found : Nat)
  | invalidPattern (reason : String)
  | invalidOps (reason : String)
deriving DecidableEq, Repr

namespace Resolution

def isResolved : Resolution → Bool
  | .resolved _ => true
  | _ => false

def text : Resolution → String
  | .resolved address => Text.address address
  | .notFound => "not found"
  | .countMismatch expected found => s!"invalid count (got {found}, expected {expected.toNat})"
  | .indexOutOfRange index found => s!"invalid index {index.toNat} ({found} results)"
  | .invalidPattern reason => "invalid pattern: " ++ reason
  | .invalidOps reason => "invalid ops: " ++ reason

/-- The members that describe the outcome in JSON. -/
def members : Resolution → List (String × Json.Value)
  | .resolved address => [("status", .string "resolved"), ("address", .number address.toNat)]
  | .notFound => [("status", .string "not_found")]
  | .countMismatch expected found =>
    [("status", .string "count_mismatch"), ("expected", .number expected.toNat),
      ("found", .number found)]
  | .indexOutOfRange index found =>
    [("status", .string "index_out_of_range"), ("index", .number index.toNat),
      ("found", .number found)]
  | .invalidPattern reason => [("status", .string "invalid_pattern"), ("reason", .string reason)]
  | .invalidOps reason => [("status", .string "invalid_ops"), ("reason", .string reason)]

end Resolution

/-- The resolution of a signature together with what the signature names. -/
structure ResolvedSignature where
  name : String
  category : Category
  resolution : Resolution
deriving DecidableEq, Repr

namespace Signature

/-- The values of an expression at the matches; matches without a value are noted and dropped. -/
def evaluateMatches (name : String) (ops : Expression) (regions : List Region) :
    List UInt64 → Logged (List UInt64)
  | [] => return []
  | here :: rest => do
    match ops.evaluate here regions with
    | .ok value => return value :: (← evaluateMatches name ops regions rest)
    | .error reason => do
      Logged.note .error s!"{name}: eval failed at {Text.address here}: {reason.message}"
      evaluateMatches name ops regions rest

/-- Picks the address from the values of all matches. -/
def select (signature : Signature) : List UInt64 → Resolution
  | [] => .notFound
  | first :: rest =>
    if rest.all (· == first) then .resolved first
    else
      let found := rest.length + 1
      if found ≠ signature.count.toNat then .countMismatch signature.count found
      else
        match (first :: rest)[signature.index.toNat]? with
        | some address => .resolved address
        | none => .indexOutOfRange signature.index found

/-- The record that tells the outcome of a signature. -/
def outcomeRecord (signature : Signature) : Resolution → Record
  | .resolved address => ⟨.info, s!"Found {signature.name} @ {Text.address address}"⟩
  | .notFound => ⟨.error, s!"Pattern \"{signature.name}\" (\"{signature.pattern}\") not found"⟩
  | other => ⟨.error, s!"{signature.name}: {other.text}"⟩

def readOps : Option String → Except ExpressionError (Option Expression)
  | none => .ok none
  | some source => (Expression.read source).map some

def resolveLogged (settings : Settings) (regions : List Region) (signature : Signature) :
    Logged Resolution := do
  match ← Pattern.compileLogged signature.pattern with
  | .error reason =>
    Logged.note .error s!"Pattern \"{signature.pattern}\" is empty or malformed: {reason.message}"
    return .invalidPattern reason.message
  | .ok pattern =>
    match readOps signature.ops with
    | .error reason =>
      let source := signature.ops.getD ""
      Logged.note .error s!"Error parsing \"{source}\": {reason.message}"
      return .invalidOps reason.message
    | .ok ops =>
      let unlimited := { settings with maxResults := UInt64.ofNat (addressLimit - 1) }
      let found ← RegionScan.scanLogged unlimited pattern regions
      let values ←
        match ops with
        | some ops => evaluateMatches signature.name ops regions found
        | none => pure found
      let resolution := signature.select values
      Logged.record (signature.outcomeRecord resolution)
      return resolution

def resolve (settings : Settings) (regions : List Region) (signature : Signature) : Resolution :=
  (signature.resolveLogged settings regions).value

end Signature

namespace SignatureFile

def resolveEach (settings : Settings) (regions : List Region) :
    List Signature → Logged (List ResolvedSignature)
  | [] => return []
  | signature :: rest => do
    let resolution ← signature.resolveLogged settings regions
    let others ← resolveEach settings regions rest
    return ⟨signature.name, signature.category, resolution⟩ :: others

/-- Resolves every signature of a file and notes how many were found. Journals carry no times: a
duration is written as zero, so that a journal depends on the inputs alone. -/
def resolveAll (settings : Settings) (regions : List Region) (file : SignatureFile) :
    Logged (List ResolvedSignature) := do
  let results ← resolveEach settings regions file.signatures
  let found := results.countP fun result => result.resolution.isResolved
  Logged.note .info s!"Found {found} patterns in 0 ms (0 ms avg)"
  return results

end SignatureFile

end BytePattern
