import BytePattern.CommandLine.Switch
import BytePattern.Journal
import BytePattern.Settings
import BytePattern.Signature.Generation

/-!
# Invocations

What a command line asks for: one of four commands, and options that all of them share. The shared
options may stand before the name of the command as well as behind it; one behind it counts more.
-/

namespace BytePattern.CommandLine

/-- Options of the commands that look into a file. -/
structure ScanOptions where
  /-- Whether the file is taken as it is, whatever its format. -/
  raw : Bool := false
  sequential : Bool := false
  threads : Option UInt64 := none
  chunkSize : Option UInt64 := none
deriving DecidableEq, Repr

/-- Puts the options in the places of the settings. -/
def ScanOptions.apply (options : ScanOptions) (settings : Settings) : Settings :=
  { settings with
    parallel := settings.parallel && !options.sequential
    threads := options.threads.getD settings.threads
    chunkSize := options.chunkSize.getD settings.chunkSize }

inductive Command where
  | scan (input pattern : String) (maxResults : Option UInt64) (options : ScanOptions)
  | check (pattern : String)
  | signatures (input file : String) (options : ScanOptions)
  | make (input : String) (address maximumLength : UInt64) (options : ScanOptions)
deriving DecidableEq, Repr

structure Invocation where
  /-- The least urgent records that are shown; none are shown without it. -/
  level : Option Level
  quiet : Bool
  json : Bool
  /-- The file that the settings are loaded from. -/
  config : Option String
  command : Command
deriving DecidableEq, Repr

/-- The paths of the files that an invocation may read. -/
def Invocation.paths (invocation : Invocation) : List String :=
  invocation.config.toList ++
    match invocation.command with
    | .scan input _ _ _ => [input]
    | .check _ => []
    | .signatures input file _ => [input, file]
    | .make input _ _ _ => [input]

def sharedSwitches : List Switch := [
  { name := "log-level", letter := some 'l', effect := .value },
  { name := "quiet", letter := some 'q' },
  { name := "no-color" },
  { name := "json" },
  { name := "config", letter := some 'c', effect := .value },
  { name := "help", letter := some 'h', effect := .help }]

/-- The switches that stand before the name of a command. -/
def leadingSwitches : List Switch :=
  { name := "version", letter := some 'V', effect := .version } :: sharedSwitches

/-- The switches of the commands that look into a file. -/
def scanSwitches : List Switch := [
  { name := "raw" },
  { name := "sequential" },
  { name := "threads", effect := .value },
  { name := "chunk-size", effect := .value }]

/-- The records that a level asks for; an unknown one asks for the usual records. -/
def levelOfText (text : String) : Option Level :=
  match text.toLower with
  | "trace" => some .trace
  | "debug" => some .debug
  | "warn" => some .warn
  | "error" => some .error
  | "off" => none
  | _ => some .info

/-- What a part of the arguments stands for, if it stands for anything. -/
def orUsage {α : Type} : Option α → Except Refusal α
  | some value => .ok value
  | none => .error .usage

/-- A path is not empty. -/
def readPath (text : String) : Except Refusal String :=
  if text.isEmpty then .error .usage else .ok text

/-- The number of a switch, if the switch is there. -/
def readNumber (gathered : Gathered) (name : String) : Except Refusal (Option UInt64) :=
  match gathered.value? name with
  | none => .ok none
  | some text => do return some (← orUsage (Text.word64? 10 text.toList))

def readScanOptions (gathered : Gathered) : Except Refusal ScanOptions := do
  return {
    raw := gathered.has "raw"
    sequential := gathered.has "sequential"
    threads := ← readNumber gathered "threads"
    chunkSize := ← readNumber gathered "chunk-size" }

/-- The switches of a command beside the shared ones. -/
def switchesOf? : String → Option (List Switch)
  | "scan" => some ({ name := "max-results", letter := some 'm', effect := .value } :: scanSwitches)
  | "check" => some []
  | "signatures" => some scanSwitches
  | "make" => some ({ name := "max-length", effect := .value } :: scanSwitches)
  | _ => none

/-- The command of a name and of what was gathered for it. -/
def readCommand (name : String) (gathered : Gathered) : Except Refusal Command := do
  let options ← readScanOptions gathered
  match name, gathered.words with
  | "scan", [input, pattern] =>
    return .scan (← readPath input) pattern (← readNumber gathered "max-results") options
  | "check", [pattern] => return .check pattern
  | "signatures", [input, file] => return .signatures (← readPath input) (← readPath file) options
  | "make", [input, address] =>
    let maximumLength ← readNumber gathered "max-length"
    return .make (← readPath input) (← orUsage (Text.readAddress? address.toList))
      (maximumLength.getD (UInt64.ofNat Generation.defaultMaximumLength)) options
  | _, _ => .error .usage

/-- What `help` with some names behind it asks for: it explains the program or one command. -/
def helpOn : List String → Refusal
  | [] => .help
  | [name] => if name = "help" ∨ (switchesOf? name).isSome then .help else .usage
  | _ => .usage

def Invocation.read (arguments : List String) : Except Refusal Invocation := do
  let (leading, rest) ← Gathered.read leadingSwitches true {} arguments
  match rest with
  | [] => .error .usage
  | "help" :: names => .error (helpOn names)
  | name :: rest =>
    let switches ← orUsage (switchesOf? name)
    let (gathered, _) ← Gathered.read (sharedSwitches ++ switches) false {} rest
    let command ← readCommand name gathered
    let level := (gathered.value? "log-level").or (leading.value? "log-level")
    let outerConfig ← (leading.value? "config").mapM readPath
    let innerConfig ← (gathered.value? "config").mapM readPath
    return {
      level := levelOfText (level.getD "info")
      quiet := leading.has "quiet" || gathered.has "quiet"
      json := leading.has "json" || gathered.has "json"
      config := innerConfig.or outerConfig
      command := command }

end BytePattern.CommandLine
