import BytePattern.Directory
import BytePattern.Json.Decode
import BytePattern.Signature.Json
import BytePattern.Signature.Yaml

/-!
# Loading signature files

A file whose name ends in `.json` holds its signatures in JSON, any other one in YAML. A file
without any signatures is of no use and counts as a fault.
-/

namespace BytePattern

inductive SignatureFileError where
  | unreadable (fault : FileFault)
  | malformedJson (error : Json.Error)
  | malformedYaml
  | noSignatures
deriving DecidableEq, Repr

namespace SignatureFileError

/-- The fault that lies behind an error, in words. -/
def source? : SignatureFileError → Option String
  | .unreadable fault => some fault.message
  | .malformedJson error => some error.message
  | .malformedYaml => some "malformed text"
  | .noSignatures => none

def message (error : SignatureFileError) : String :=
  match error with
  | .unreadable _ => "IO error: " ++ error.source?.getD ""
  | .malformedJson _ => "Malformed signature file: " ++ error.source?.getD ""
  | .malformedYaml => "Malformed signature file: " ++ error.source?.getD ""
  | .noSignatures => "Signature file contains no signatures"

end SignatureFileError

namespace SignatureFile

/-- A signature file that has some signatures. -/
def check (file : SignatureFile) : Except SignatureFileError SignatureFile :=
  if file.signatures.isEmpty then .error .noSignatures else .ok file

/-- Reads a signature file in JSON with a codec. -/
def readJsonWith (codec : Json.Codec) (text : String) : Except SignatureFileError SignatureFile :=
  match codec.read (ofJson codec) text with
  | .ok file => file.check
  | .error error => .error (.malformedJson error)

def readJson (text : String) : Except SignatureFileError SignatureFile :=
  readJsonWith Json.codec text

def readYaml (text : String) : Except SignatureFileError SignatureFile :=
  match ofYaml? text with
  | some file => file.check
  | none => .error .malformedYaml

/-- Whether the name of a file says that it holds JSON. -/
def isJsonPath (path : String) : Bool :=
  (Directory.extension? path).any fun ending => ending.map Char.toLower = "json".toList

def load (directory : Directory) (path : String) : Except SignatureFileError SignatureFile :=
  match directory.readText path with
  | .error fault => .error (.unreadable fault)
  | .ok text => if isJsonPath path then readJson text else readYaml text

end SignatureFile

end BytePattern
