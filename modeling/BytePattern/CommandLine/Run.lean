import BytePattern.CommandLine.Invocation
import BytePattern.CommandLine.Session
import BytePattern.Directory
import BytePattern.Image.Loading
import BytePattern.Pattern.Caret
import BytePattern.Report
import BytePattern.Settings.Loading
import BytePattern.Signature.Loading
import BytePattern.Signature.Resolution

/-!
# Running the program

Carries out an invocation in a directory. Runs are not timed: durations are written as zero, so that
what a run shows depends on its arguments and files alone.
-/

namespace BytePattern.CommandLine

def versionText : String := "binpattern 1.0.0"

def usageText : String :=
  "Usage: binpattern [OPTIONS] <scan INPUT PATTERN | check PATTERN | " ++
    "signatures INPUT SIGNATURES | make INPUT ADDRESS>"

namespace Invocation

/-- Whether lines for the user are left out. -/
def isQuiet (invocation : Invocation) : Bool :=
  invocation.quiet || invocation.json

def format (invocation : Invocation) : ReportFormat :=
  if invocation.json then .json else .text

def tell (invocation : Invocation) (text : String) : Session Unit :=
  if invocation.isQuiet then pure () else Session.say text

/-- Shows a rendered text; one in JSON gets a line break at its end. -/
def printRendered (invocation : Invocation) (text : String) : Session Unit :=
  Session.print (if invocation.json then text ++ "\n" else text)

/-- The settings of an invocation: those of its file, or the given ones. -/
def loadSettings (invocation : Invocation) (settings : Settings) (directory : Directory) :
    Session Settings :=
  match invocation.config with
  | none => pure settings
  | some path =>
    match settings.load directory path with
    | .ok settings => pure settings
    | .error error =>
      Session.fail ([s!"Failed to load config {path}", error.message] ++ error.source?.toList)

/-- Settings with the options of a command in their places, if they are usable. -/
def usableSettings (options : ScanOptions) (settings : Settings) : Session Settings :=
  let settings := options.apply settings
  match settings.fault? with
  | some fault => Session.fail [fault.message]
  | none => pure settings

def requireFile (directory : Directory) (what path : String) : Session Unit :=
  if directory.contains path then pure ()
  else Session.fail [s!"{what} file does not exist: {path}"]

/-- Reads a pattern and points at the bad token of one that is none. -/
def compile (source : String) : Session Pattern := do
  match ← Session.logged (Pattern.compileLogged source) with
  | .ok pattern => return pattern
  | .error reason =>
    match reason with
    | .invalidToken token _ column =>
      let carets := Pattern.caretLine source.toList token.toList column
      Session.say ("    " ++ source)
      Session.say ("    " ++ String.ofList carets)
    | .empty => pure ()
    Session.fail ["Invalid pattern", reason.message]

def loadImage (invocation : Invocation) (directory : Directory) (options : ScanOptions)
    (path : String) : Session Image := do
  invocation.tell s!"[*] Loading binary: {path}"
  let failure := s!"Failed to load binary {path}"
  match directory.map path with
  | .error fault => Session.fail [failure, "IO error: " ++ fault.message, fault.message]
  | .ok file =>
    Session.note .debug s!"Mapped {path} ({file.size} bytes)"
    let loaded := if options.raw then .ok (Image.raw file) else Image.load file
    match loaded with
    | .error fault => Session.fail [failure, fault.message]
    | .ok image =>
      let format := image.format.text
      let count := image.segments.length
      if !options.raw then
        Session.note .debug s!"Loaded {path} as {format} with {count} segments"
      invocation.tell s!"[+] Loaded {format} image with {count} segments"
      return image

def runScan (invocation : Invocation) (directory : Directory) (settings : Settings)
    (input source : String) (maxResults : Option UInt64) (options : ScanOptions) :
    Session Unit := do
  requireFile directory "Input" input
  let pattern ← compile source
  let settings ← usableSettings options
    { settings with maxResults := maxResults.getD settings.maxResults }
  let image ← invocation.loadImage directory options input
  let outcome ← Session.logged (RegionScan.run settings pattern image.regions true)
  let report : Report := ⟨pattern, outcome.addresses, outcome.total, 0⟩
  invocation.printRendered (report.render invocation.format)

def runCheck (invocation : Invocation) (source : String) : Session Unit := do
  let pattern ← compile source
  if invocation.json then
    let report : Report := ⟨pattern, [], 0, 0⟩
    invocation.printRendered (report.render .json)
  else
    let anchor :=
      match pattern.anchor with
      | some anchor =>
        let byte := String.ofList (Text.byteDigits anchor.byte)
        s!"anchored on {byte} at index {anchor.index}"
      | none => "no fixed bytes, every offset matches"
    Session.print (Report.ofLines [
      s!"[+] {pattern.text}",
      s!"    {pattern.span} bytes, {pattern.fixedCount} fixed, {pattern.wildcardCount} wildcard",
      "    " ++ anchor])

def runSignatures (invocation : Invocation) (directory : Directory) (settings : Settings)
    (input path : String) (options : ScanOptions) : Session Unit := do
  requireFile directory "Input" input
  requireFile directory "Signature" path
  let settings ← usableSettings options settings
  match SignatureFile.load directory path with
  | .error error =>
    Session.fail ([s!"Failed to load {path}", error.message] ++ error.source?.toList)
  | .ok file =>
    let image ← invocation.loadImage directory options input
    let results ← Session.logged (file.resolveAll settings image.regions)
    invocation.printRendered (ResolvedSignature.renderAll results invocation.format)
    let resolved := results.countP fun result => result.resolution.isResolved
    let mark := if resolved = results.length then "[+]" else "[!]"
    invocation.tell s!"{mark} Resolved {resolved}/{results.length} signatures"

def runMake (invocation : Invocation) (directory : Directory) (settings : Settings)
    (input : String) (address maximumLength : UInt64) (options : ScanOptions) :
    Session Unit := do
  requireFile directory "Input" input
  if maximumLength = 0 then Session.fail ["max_length must be greater than 0"]
  let settings ← usableSettings options settings
  let image ← invocation.loadImage directory options input
  match ← Session.logged
      (Generation.generateLogged settings maximumLength.toNat image.regions address) with
  | .error reason =>
    Session.fail [s!"Failed to create a signature for {Text.address address}", reason.message]
  | .ok pattern =>
    if invocation.json then
      let value : Json.Value := .object [
        ("address", .number address.toNat),
        ("length", .number pattern.span),
        ("pattern", .string pattern.text)]
      invocation.printRendered value.prettyText
    else Session.print s!"[+] Generated Pattern: \"{pattern.text}\"\n"

def run (invocation : Invocation) (settings : Settings) (directory : Directory) :
    Session Unit := do
  let settings ← invocation.loadSettings settings directory
  match invocation.command with
  | .scan input pattern maxResults options =>
    invocation.runScan directory settings input pattern maxResults options
  | .check pattern => invocation.runCheck pattern
  | .signatures input file options => invocation.runSignatures directory settings input file options
  | .make input address maximumLength options =>
    invocation.runMake directory settings input address maximumLength options

/-- Whether a notice is shown: records have to be urgent enough. -/
def shows (invocation : Invocation) : Notice → Bool
  | .line _ => true
  | .record entry => invocation.level.any fun level => entry.level.rank ≤ level.rank

end Invocation

structure Transcript where
  exitCode : Nat
  output : String
  notices : List Notice

/-- Runs the program with some arguments in a directory. -/
def run (arguments : List String) (settings : Settings) (directory : Directory) : Transcript :=
  match Invocation.read arguments with
  | .error .usage => ⟨2, "", [.line usageText]⟩
  | .error .help => ⟨0, usageText ++ "\n", []⟩
  | .error .version => ⟨0, versionText ++ "\n", []⟩
  | .ok invocation =>
    let session := invocation.run settings directory
    let shown := session.notices.filter invocation.shows
    match session.value with
    | .ok _ => ⟨0, session.output, shown⟩
    | .error reason => ⟨1, session.output, shown ++ [.line ("[!] " ++ reason)]⟩

end BytePattern.CommandLine
