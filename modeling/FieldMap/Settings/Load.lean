import FieldMap.Error
import FieldMap.FileTree
import FieldMap.Json.Merge
import FieldMap.Json.Parser
import FieldMap.Json.Record
import FieldMap.Settings.Environment
import FieldMap.Toml.Parser

/-!
# Settings from documents

A document in TOML or JSON is laid over the defaults, and the result is read as settings
(`Settings.overDefaults`). `Settings.ofText` does this for a text and `Settings.ofFile` for a
file in a tree of files. What can go wrong is a `LoadError`.
-/

namespace FieldMap

open Json (DecodeError RecordShape asBool asString asMembers required)

/-! ## Settings as a document -/

/-- The settings of derived fields as a document. -/
def RestSettings.toJson (s : RestSettings) : Json :=
  .object [("view_name_format", .string s.viewNameFormat),
    ("url_field_name", .string s.urlFieldName), ("hyperlinked", .bool s.hyperlinked)]

/-- Settings as a document. -/
def Settings.toJson (s : Settings) : Json :=
  .object [("debug", .bool s.debug), ("log_level", .string s.logLevel),
    ("rest_framework", s.rest.toJson), ("extra", .object s.extra)]

/-- How the settings of derived fields are read. -/
def RestSettings.shape : RecordShape RestSettings where
  expected := "struct RestFrameworkSettings"
  fields := [
    ("view_name_format", fun s value => return { s with viewNameFormat := ← asString value }),
    ("url_field_name", fun s value => return { s with urlFieldName := ← asString value }),
    ("hyperlinked", fun s value => return { s with hyperlinked := ← asBool value })]
  hasDefaults := true

/-- The settings of derived fields that a document holds; what it leaves out has its default. -/
def RestSettings.ofJson (document : Json) : Except DecodeError RestSettings :=
  RestSettings.shape.read {} document

/-- Settings of which not all may have been read. -/
structure Settings.Draft where
  debug : Option Bool := none
  logLevel : Option String := none
  rest : Option RestSettings := none
  extra : Option Members := none

/-- How settings are read. -/
def Settings.shape : RecordShape Settings.Draft where
  expected := "struct Settings"
  fields := [
    ("debug", fun d value => return { d with debug := some (← asBool value) }),
    ("log_level", fun d value => return { d with logLevel := some (← asString value) }),
    ("rest_framework", fun d value => return { d with rest := some (← RestSettings.ofJson value) }),
    ("extra", fun d value => return { d with extra := some (← asMembers value) })]
  hasDefaults := false

/-- The settings that a document holds, all of which must be there. -/
def Settings.ofJson (document : Json) : Except DecodeError Settings := do
  let draft ← Settings.shape.read {} document
  return {
    debug := ← required "debug" draft.debug
    logLevel := ← required "log_level" draft.logLevel
    rest := ← required "rest_framework" draft.rest
    extra := ← required "extra" draft.extra }

/-- The defaults with a document laid over them. -/
def Settings.overDefaults (document : Json) : Except DecodeError Settings :=
  Settings.ofJson (Json.merge (Settings.toJson {}) document)

/-! ## Texts and files -/

/-- The formats of settings documents. -/
inductive Format where
  | toml
  | json
  deriving DecidableEq

/-- A format's name in messages. -/
def Format.name : Format → String
  | .toml => "TOML"
  | .json => "JSON"

/-- The document that a text holds. -/
def Format.parse? (format : Format) (text : String) : Option Json :=
  match format with
  | .toml => (Toml.parse? text).map (·.toJson)
  | .json => Json.parse? text

/-- Why settings could not be loaded. -/
inductive LoadError where
  | unreadable (format : Format) (path : String) (fault : FileFault)
  | malformed (format : Format)
  | illTyped (format : Format) (cause : DecodeError)

/-- The text of a loading error. -/
def LoadError.message : LoadError → String
  | .unreadable format path fault =>
    "Failed to read " ++ format.name ++ " file '" ++ path ++ "': " ++ fault.message
  | .malformed format => "Failed to parse " ++ format.name
  | .illTyped format cause =>
    "Failed to deserialize settings from " ++ format.name ++ ": " ++ cause.message

/-- A loading error among all failures. -/
def LoadError.toError (e : LoadError) : Error :=
  .configuration e.message

/-- The settings that a text describes, over the defaults. -/
def Settings.ofText (format : Format) (text : String) : Except LoadError Settings :=
  match format.parse? text with
  | none => .error (.malformed format)
  | some document => (Settings.overDefaults document).mapError (.illTyped format)

/-- The settings that the file at a path describes, over the defaults. -/
def Settings.ofFile (files : FileTree) (format : Format) (path : String) :
    Except LoadError Settings := do
  let text ← (files.readText path).mapError (.unreadable format path)
  Settings.ofText format text

/-- The settings that the file at a path describes, with an environment laid over them. -/
def Settings.ofFileWithEnvironment (files : FileTree) (format : Format) (path : String)
    (env : Environment) : Except LoadError Settings :=
  (Settings.ofFile files format path).map (Settings.withEnvironment env)

end FieldMap
