import BytePattern.Directory
import BytePattern.Json.Decode
import BytePattern.Settings.Json

/-!
# Loading settings

Settings are loaded from a JSON file and must be usable. How the text is decoded is a matter of the
codec.
-/

namespace BytePattern

inductive SettingsFileError where
  | unreadable (fault : FileFault)
  | malformed (error : Json.Error)
  | unusable (fault : SettingsFault)
deriving DecidableEq, Repr

namespace SettingsFileError

/-- The fault that lies behind an error, in words. -/
def source? : SettingsFileError → Option String
  | .unreadable fault => some fault.message
  | .malformed error => some error.message
  | .unusable _ => none

def message (error : SettingsFileError) : String :=
  match error with
  | .unreadable _ => "IO error: " ++ error.source?.getD ""
  | .malformed _ => "Malformed config: " ++ error.source?.getD ""
  | .unusable fault => "Invalid config: " ++ fault.message

end SettingsFileError

namespace Settings

/-- Settings without a fault. -/
def check (settings : Settings) : Except SettingsFileError Settings :=
  match settings.fault? with
  | some fault => .error (.unusable fault)
  | none => .ok settings

/-- Reads settings in JSON; what is missing is taken from the given ones. -/
def readJsonWith (codec : Json.Codec) (settings : Settings) (text : String) :
    Except SettingsFileError Settings :=
  match codec.read (ofJson codec settings) text with
  | .ok settings => settings.check
  | .error error => .error (.malformed error)

/-- Loads settings with a codec. -/
def loadWith (codec : Json.Codec) (settings : Settings) (directory : Directory) (path : String) :
    Except SettingsFileError Settings :=
  match directory.readText path with
  | .error fault => .error (.unreadable fault)
  | .ok text => readJsonWith codec settings text

def load (settings : Settings) (directory : Directory) (path : String) :
    Except SettingsFileError Settings :=
  loadWith Json.codec settings directory path

end Settings

end BytePattern
