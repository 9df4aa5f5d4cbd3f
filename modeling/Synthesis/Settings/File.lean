import Synthesis.Settings
import Synthesis.Toml.Parser

/-!
# Settings files

A settings file is a TOML document that holds nothing but a table `engine` with the settings. The
table may also be written as an array of all three settings in their order. A file whose
settings are well-formed but not usable is refused with the first of its unusable settings.
-/
namespace Synthesis

inductive InvalidSetting where
  | zeroDepth
  /-- A placeholder that is not a constructor name. -/
  | placeholder (name : String)
  | depthVariable (content : String)
deriving DecidableEq

namespace InvalidSetting

def depthVariableName : String := "TYKNOT_MAX_DEPTH"

def field : InvalidSetting → String
  | .zeroDepth => "engine.max_depth"
  | .placeholder _ => "engine.placeholder"
  | .depthVariable _ => depthVariableName

def reason : InvalidSetting → String
  | .zeroDepth => "depth limit must be at least 1"
  | .placeholder name => "'" ++ name ++ "' is not a type constructor name"
  | .depthVariable content => "expected a positive integer, got '" ++ content ++ "'"

def message (invalid : InvalidSetting) : String :=
  "Invalid value for '" ++ invalid.field ++ "': " ++ invalid.reason

end InvalidSetting

namespace Section

/-! ## 1. From a document to a section -/

/-- The section with one more key; a key that is unknown, given twice or of the wrong type is
refused. -/
def set? (given : Section) (key : String) (value : Toml.Value) : Option Section :=
  match key, value with
  | "trace", .boolean content =>
      if given.trace.isNone then some { given with trace := some content } else none
  | "max_depth", .integer (.ofNat limit) =>
      if given.maxDepth.isNone then some { given with maxDepth := some limit } else none
  | "placeholder", .string name =>
      if given.placeholder.isNone then some { given with placeholder := some name } else none
  | _, _ => none

def ofValue? : Toml.Value → Option Section
  | .table _ entries => entries.foldlM (fun given entry => given.set? entry.1 entry.2) {}
  | .array (trace :: maxDepth :: placeholder :: _) => do
      let given ← ({} : Section).set? "trace" trace
      let given ← given.set? "max_depth" maxDepth
      given.set? "placeholder" placeholder
  | _ => none

inductive Progress where
  | absent
  /-- No table was opened, and keys with dots have given a section. -/
  | dotted (given : Section)
  /-- No table was opened, and the section was given as one value. -/
  | whole (given : Section)
  /-- The table of the section is open. -/
  | inside (given : Section)

/-- Reads one statement. Only the table of the section may be mentioned, and only in one way. -/
def Progress.next? : Progress → Toml.Statement → Option Progress
  | .absent, .header ["engine"] => some (.inside {})
  | .absent, .assignment ["engine"] value => (ofValue? value).map .whole
  | .absent, .assignment ["engine", key] value => (({} : Section).set? key value).map .dotted
  | .dotted given, .assignment ["engine", key] value => (given.set? key value).map .dotted
  | .inside given, .assignment [key] value => (given.set? key value).map .inside
  | _, _ => none

/-- The section at the end of the document. -/
def Progress.section? : Progress → Option Section
  | .absent => none
  | .dotted given | .whole given | .inside given => some given

end Section

/-! ## 2. Files -/

/-- A settings file: its section, if it has one. -/
structure SettingsFile where
  engine : Option Section := none
deriving DecidableEq, Inhabited

inductive FileError where
  /-- It is not a TOML document with the right keys and types. -/
  | malformed
  | invalid (setting : InvalidSetting)
deriving DecidableEq

/-- Whether a text is a name that terms use for constructors: an uppercase ASCII letter followed
by ASCII letters, digits and underscores. -/
def isConstructorName (name : String) : Bool :=
  match name.toList with
  | [] => false
  | first :: rest => first.isUpper && rest.all fun c => c.isAlphanum || c == '_'

namespace SettingsFile

def check (file : SettingsFile) : Except InvalidSetting Unit :=
  match file.engine with
  | none => .ok ()
  | some given =>
      if given.maxDepth = some 0 then .error .zeroDepth
      else
        match given.placeholder with
        | none => .ok ()
        | some name => if isConstructorName name then .ok () else .error (.placeholder name)

/-- The file that a document writes down, usable or not. -/
def ofDocument? (document : Toml.Document) : Option SettingsFile :=
  (document.foldlM Section.Progress.next? .absent).map fun progress => ⟨progress.section?⟩

/-- The file that a TOML text writes down, usable or not. -/
def ofToml? (source : String) : Option SettingsFile := (Toml.parse source).bind ofDocument?

/-- Reads a settings file in a format, which says what file a text writes down, usable or not. -/
def parseAs (format : String → Option SettingsFile) (source : String) :
    Except FileError SettingsFile :=
  match format source with
  | none => .error .malformed
  | some file =>
      match file.check with
      | .ok () => .ok file
      | .error setting => .error (.invalid setting)

def parse (source : String) : Except FileError SettingsFile := parseAs ofToml? source

def settings (file : SettingsFile) : Settings :=
  match file.engine with
  | none => .default
  | some given => Settings.default.overlay given

end SettingsFile
end Synthesis
