import FieldMap.Settings.Basic
import FieldMap.Text.Case

/-!
# Settings from environment variables

Five variables override five settings, each its own one. A truth value is true for `true`, `1` and
`yes` in any letter case and false for every other text.
-/

namespace FieldMap

/-- The environment variables that are set. -/
abbrev Environment := String → Option String

/-- The environment of a list of pairs; of several pairs with one name the first one counts. -/
def Environment.ofList (pairs : List (String × String)) : Environment :=
  fun name => pairs.lookup name

/-- Whether a variable's text means true. -/
def isTrueText (text : String) : Bool :=
  ["true", "1", "yes"].contains (Text.lowercase text)

/-- Settings with the variables of an environment laid over them. -/
def Settings.withEnvironment (env : Environment) (s : Settings) : Settings where
  debug := ((env "DJANGO_DEBUG").map isTrueText).getD s.debug
  logLevel := (env "DJANGO_LOG_LEVEL").getD s.logLevel
  rest := {
    viewNameFormat := (env "DJANGO_REST_VIEW_NAME_FORMAT").getD s.rest.viewNameFormat
    urlFieldName := (env "DJANGO_REST_URL_FIELD_NAME").getD s.rest.urlFieldName
    hyperlinked := ((env "DJANGO_REST_HYPERLINKED").map isTrueText).getD s.rest.hyperlinked }
  extra := s.extra

/-- The defaults with an environment laid over them. -/
def Settings.ofEnvironment (env : Environment) : Settings :=
  Settings.withEnvironment env {}

end FieldMap
