import FieldMap.Error
import FieldMap.Text.Case
import FieldMap.Validator.Grammar
import FieldMap.Value

/-!
# Validators

A validator accepts a value or says why not (`Validator.check`). Length bounds and forms speak of
texts only, value bounds of numbers only, and every other value is accepted. Its kind tells what a
validator bounds, so that bounds can be carried over to arguments of fields.
-/

namespace FieldMap

/-- A constraint on values. The mail address and slug validators that fields attach themselves
(`builtInEmail`, `builtInSlug`) are told apart from those attached by hand. -/
inductive Validator where
  | maxLength (limit : Nat)
  | minLength (limit : Nat)
  | maxValue (limit : Binary64)
  | minValue (limit : Binary64)
  /-- Links with one of the schemes, which are compared in lower case. -/
  | url (schemes : List String)
  | email (message : String)
  | builtInEmail
  | slug (message : String)
  | builtInSlug
  /-- A constraint from outside, which accepts everything here. -/
  | custom (name : String)

/-- What a validator constrains. -/
inductive ValidatorKind where
  | maxLength (limit : Nat)
  | minLength (limit : Nat)
  | maxValue (limit : Binary64)
  | minValue (limit : Binary64)
  | url
  | email
  | slug
  | custom

namespace Validator

/-- The schemes that links have unless others are given. -/
def defaultSchemes : List String :=
  ["http", "https", "ftp", "ftps"]

/-- What is said of a text that is no mail address, unless a message is given. -/
def defaultEmailMessage : String :=
  "Enter a valid email address."

/-- What is said of a text that is no slug, unless a message is given. -/
def defaultSlugMessage : String :=
  "Enter a valid \"slug\" consisting of letters, numbers, underscores or hyphens."

/-- A validator's kind. -/
def kind : Validator → ValidatorKind
  | .maxLength limit => .maxLength limit
  | .minLength limit => .minLength limit
  | .maxValue limit => .maxValue limit
  | .minValue limit => .minValue limit
  | .url _ => .url
  | .email _ | .builtInEmail => .email
  | .slug _ | .builtInSlug => .slug
  | .custom _ => .custom

/-- A validator's name. -/
def name : Validator → String
  | .maxLength _ => "MaxLengthValidator"
  | .minLength _ => "MinLengthValidator"
  | .maxValue _ => "MaxValueValidator"
  | .minValue _ => "MinValueValidator"
  | .url _ => "URLValidator"
  | .email _ | .builtInEmail => "EmailValidator"
  | .slug _ | .builtInSlug => "SlugValidator"
  | .custom name => name

/-- The verdict that a value is refused unless `holds`. -/
def demand (holds : Bool) (message code : String) : Except ValidationError Unit :=
  if holds then .ok () else .error (.ofMessage message code)

/-- The verdict on a text, all other values being accepted. -/
def onText (value : Value) (verdict : List Char → Except ValidationError Unit) :
    Except ValidationError Unit :=
  match value.asText with
  | some text => verdict text.toList
  | none => .ok ()

/-- The verdict on a number, all other values being accepted. -/
def onNumber (value : Value) (verdict : Binary64 → Except ValidationError Unit) :
    Except ValidationError Unit :=
  match value.asNumber with
  | some number => verdict number
  | none => .ok ()

/-- Whether a text is a link with one of the schemes. -/
def isUrl (schemes : List String) (text : List Char) : Bool :=
  match Grammar.linkScheme? text with
  | some scheme => schemes.contains (Text.lowercase (String.ofList scheme))
  | none => false

/-- Accepts a value or says why not. -/
def check (validator : Validator) (value : Value) : Except ValidationError Unit :=
  match validator with
  | .maxLength limit => onText value fun text =>
    demand (text.length ≤ limit)
      ("Ensure this value has at most " ++ toString limit ++ " characters (it has " ++
        toString text.length ++ ").") "max_length"
  | .minLength limit => onText value fun text =>
    demand (limit ≤ text.length)
      ("Ensure this value has at least " ++ toString limit ++ " characters (it has " ++
        toString text.length ++ ").") "min_length"
  | .maxValue limit => onNumber value fun number =>
    demand (!limit.lt number)
      ("Ensure this value is less than or equal to " ++ limit.display ++ ".") "max_value"
  | .minValue limit => onNumber value fun number =>
    demand (!number.lt limit)
      ("Ensure this value is greater than or equal to " ++ limit.display ++ ".") "min_value"
  | .url schemes => onText value fun text =>
    demand (isUrl schemes text) "Enter a valid URL." "invalid"
  | .email message => onText value fun text => demand (Grammar.isEmail text) message "invalid"
  | .builtInEmail => onText value fun text =>
    demand (Grammar.isEmail text) defaultEmailMessage "invalid"
  | .slug message => onText value fun text => demand (Grammar.isSlug text) message "invalid"
  | .builtInSlug => onText value fun text =>
    demand (Grammar.isSlug text) defaultSlugMessage "invalid"
  | .custom _ => .ok ()

/-- Whether a value is accepted. -/
def accepts (validator : Validator) (value : Value) : Bool :=
  (validator.check value).toBool

end Validator

end FieldMap
