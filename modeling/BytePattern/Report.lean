import BytePattern.Json.Value
import BytePattern.Pattern.Basic
import BytePattern.Signature.Resolution

/-!
# Reports

What a scan found, as lines of text or as JSON, and the table of resolved signatures.
-/

namespace BytePattern

inductive ReportFormat where
  | text
  | json
deriving DecidableEq, Repr

structure Report where
  pattern : Pattern
  results : List UInt64
  /-- The number of all matches, listed or not. -/
  total : Nat
  elapsedMilliseconds : Nat

namespace Report

/-- Whether some matches are not listed. -/
def truncated (report : Report) : Bool :=
  decide (report.results.length < report.total)

def toJson (report : Report) : Json.Value :=
  .object [
    ("pattern", .string report.pattern.text),
    ("length", .number report.pattern.span),
    ("bytes", .string (Text.spacedBytes report.pattern.bytes)),
    ("masks", .string (Text.spacedBytes report.pattern.masks)),
    ("elapsed_ms", .number report.elapsedMilliseconds),
    ("total", .number report.total),
    ("truncated", .bool report.truncated),
    ("results", .array (report.results.map fun address => .number address.toNat))]

def header (report : Report) : List String :=
  [s!"Found {report.total} results for \"{report.pattern.text}\" in " ++
      s!"{report.elapsedMilliseconds} ms:",
    s!"Pattern: Length {report.pattern.span}, \"{Text.spacedBytes report.pattern.bytes}\", " ++
      s!"\"{Text.spacedBytes report.pattern.masks}\""] ++
  (if report.truncated then
    [s!"Too many results, only showing first {report.results.length}."] else [])

/-- The header, an empty line and one address a line. -/
def lines (report : Report) : List String :=
  report.header ++ [""] ++ report.results.map Text.address

/-- Lines joined to a text; every line ends with a line break. -/
def ofLines (lines : List String) : String :=
  String.join (lines.map (· ++ "\n"))

/-- The report as a text; the JSON form has no line break at its end. -/
def render (report : Report) : ReportFormat → String
  | .text => ofLines report.lines
  | .json => report.toJson.prettyText

end Report

namespace ResolvedSignature

def toJson (result : ResolvedSignature) : Json.Value :=
  .object ([("name", .string result.name), ("category", .string result.category.text)] ++
    result.resolution.members)

/-- Fills a text up with spaces to a number of characters. -/
def padTo (columns : Nat) (text : String) : String :=
  text ++ String.ofList (List.replicate (columns - text.length) ' ')

def line (nameColumns : Nat) (result : ResolvedSignature) : String :=
  padTo nameColumns result.name ++ "  " ++ padTo 8 result.category.text ++ "  " ++
    result.resolution.text

/-- The results as a table or as a JSON array. The column of the names has as many places as the
longest name has bytes; names are filled up by their number of characters. -/
def renderAll (results : List ResolvedSignature) : ReportFormat → String
  | .text =>
    let nameColumns := results.foldl (fun widest result => max widest result.name.utf8ByteSize) 0
    Report.ofLines (results.map (line nameColumns))
  | .json => (Json.Value.array (results.map toJson)).prettyText

end ResolvedSignature

end BytePattern
