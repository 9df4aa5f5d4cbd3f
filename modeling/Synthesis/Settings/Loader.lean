import Synthesis.FileSystem
import Synthesis.Settings.File

/-!
# Loading settings

Settings come from three places. The defaults are overlaid by the nearest settings file, and that
by the environment. The nearest file is looked for in a directory and then in its parents; if it
cannot be used, loading fails, and no farther file is looked for.
-/
namespace Synthesis

/-- The values of the environment variables for settings, as bytes. A variable may be unset. -/
structure Environment where
  trace : Option ByteArray := none
  maxDepth : Option ByteArray := none

/-- Why settings were not loaded. -/
inductive LoadError where
  | notFound (path : Path)
  /-- The file is there and cannot be read. -/
  | unreadable (error : ReadError)
  /-- The file at a path is not a settings file. -/
  | malformed (path : Path)
  /-- A setting is not usable. -/
  | invalid (setting : InvalidSetting)
deriving DecidableEq

def LoadError.unreadableMessage (error : ReadError) : String :=
  "Failed to read configuration file: " ++ error.message

/-- Loaded settings, and the file that they come from, if there is one. -/
structure Loaded where
  settings : Settings
  source : Option Path
deriving DecidableEq

namespace SettingsFile

def fileName : String := "tyknot.toml"

def load (format : String → Option SettingsFile) (files : FileSystem) (path : Path) :
    Except LoadError SettingsFile :=
  match files.readText path with
  | .error (.path .missing) => .error (.notFound path)
  | .error error => .error (.unreadable error)
  | .ok text =>
      match parseAs format text with
      | .ok file => .ok file
      | .error .malformed => .error (.malformed path)
      | .error (.invalid setting) => .error (.invalid setting)

/-- The first path of some directories at which there is a settings file. -/
def firstPresent (files : FileSystem) (directories : List Path) : Option Path :=
  (directories.map (·.join fileName)).find? files.isPresent

end SettingsFile

namespace Environment

/-- The text of a variable; a value that is not UTF-8 counts as unset. -/
def text? (value : Option ByteArray) : Option String := value.bind String.fromUTF8?

/-- Whether a text switches reports on. Only ASCII letters have lowercase forms that are letters
of these words. -/
def isYes (content : String) : Bool := content.toLower ∈ ["true", "1", "yes"]

def greatestDepth : Nat := UInt64.size - 1

/-- The number that ASCII digits write, after an optional plus sign. -/
def number? (content : String) : Option Nat :=
  let digits :=
    match content.toList with
    | '+' :: rest => rest
    | text => text
  if !digits.isEmpty && digits.all Char.isDigit then
    some (digits.foldl (fun number c => 10 * number + (c.toNat - '0'.toNat)) 0)
  else none

/-- The depth limit that a text writes. -/
def depth? (content : String) : Option Nat :=
  (number? content).filter fun number => 0 < number && number ≤ greatestDepth

def given (environment : Environment) : Except InvalidSetting Section := do
  let trace := (text? environment.trace).map isYes
  match text? environment.maxDepth with
  | none => return { trace }
  | some content =>
      match depth? content with
      | some limit => return { trace, maxDepth := some limit }
      | none => .error (.depthVariable content)

/-- The settings with those of the environment in their place. -/
def override (environment : Environment) (settings : Settings) : Except LoadError Settings :=
  match environment.given with
  | .ok given => .ok (settings.overlay given)
  | .error setting => .error (.invalid setting)

end Environment

namespace Settings

/-- Loads settings from the file at a path, which is written in some format. -/
def loadFileAs (format : String → Option SettingsFile) (files : FileSystem)
    (environment : Environment) (path : Path) : Except LoadError Loaded := do
  let file ← SettingsFile.load format files path
  return ⟨← environment.override file.settings, some path⟩

/-- Loads settings from the nearest file in a directory and its parents. -/
def loadDirectoryAs (format : String → Option SettingsFile) (files : FileSystem)
    (environment : Environment) (start : Path) : Except LoadError Loaded :=
  match SettingsFile.firstPresent files start.ancestors with
  | some path => loadFileAs format files environment path
  | none => return ⟨← environment.override .default, none⟩

def loadFile : FileSystem → Environment → Path → Except LoadError Loaded :=
  loadFileAs SettingsFile.ofToml?

def loadDirectory : FileSystem → Environment → Path → Except LoadError Loaded :=
  loadDirectoryAs SettingsFile.ofToml?

end Settings
end Synthesis
