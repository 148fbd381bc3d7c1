import FieldMap.Model.FieldType
import FieldMap.Model.Ref
import FieldMap.Text.Words
import FieldMap.Validator.Basic

/-!
# Model fields

`ModelField` is all that is known of one field of a model. A field begins as `ModelField.ofType`
and is refined by options (`FieldOption`), each of which `ModelField.apply` enters.
-/

namespace FieldMap

/-- An entry of a field's choices: one option, or a named group of options. -/
inductive Choice where
  | option (value : Value) (label : String)
  | group (name : String) (options : List (Value × String))

/-- A field of a model. -/
structure ModelField where
  name : String
  type : FieldType
  primaryKey : Bool := false
  /-- Whether it may have no value. -/
  null : Bool := false
  /-- Whether it may be left blank. -/
  blank : Bool := false
  default : Option Value := none
  unique : Bool := false
  maxLength : Option Nat := none
  helpText : String := ""
  verboseName : String := ""
  choices : List Choice := []
  /-- Validators attached by hand, in addition to those of the type. -/
  validators : List Validator := []
  editable : Bool := true
  /-- The model that the field belongs to, if it has been attached to one. -/
  model : Option ModelRef := none

/-- What a field's declaration may say beyond name and type. -/
inductive FieldOption where
  | primaryKey
  | nullable
  | blank
  | unique
  | notEditable
  /-- The field is set by itself whenever its object is saved. -/
  | autoNow
  | maxLength (limit : Nat)
  | default (value : Value)
  | verboseName (name : String)
  | helpText (text : String)
  | choices (options : List (Value × String))
  | choiceGroup (name : String) (options : List (Value × String))
  | validator (v : Validator)

namespace Choice

/-- The options of an entry. -/
def options : Choice → List (Value × String)
  | .option value label => [(value, label)]
  | .group _ options => options

end Choice

namespace ModelField

/-! ## Declaring fields -/

/-- A field of which only name and type are given. -/
def ofType (name : String) (type : FieldType) : ModelField where
  name := name
  type := type
  null := type.forcesNull
  blank := type.forcesBlank
  maxLength := type.defaultMaxLength
  verboseName := Text.underscoresToSpaces name

/-- The field with one more option. Primary keys are unique; a field that sets itself is blank and
not editable; choices replace earlier ones, and a group of choices is added to them. -/
def apply (f : ModelField) : FieldOption → ModelField
  | .primaryKey => { f with primaryKey := true, unique := true }
  | .nullable => { f with null := true }
  | .blank => { f with blank := true }
  | .unique => { f with unique := true }
  | .notEditable => { f with editable := false }
  | .autoNow => { f with editable := false, blank := true }
  | .maxLength limit => { f with maxLength := some limit }
  | .default value => { f with default := some value }
  | .verboseName name => { f with verboseName := name }
  | .helpText text => { f with helpText := text }
  | .choices options => { f with choices := options.map fun o => .option o.1 o.2 }
  | .choiceGroup name options => { f with choices := f.choices ++ [.group name options] }
  | .validator v => { f with validators := f.validators ++ [v] }

/-- A field declared with a name, a type and options. -/
def declare (name : String) (type : FieldType) (options : List FieldOption) : ModelField :=
  options.foldl apply (ofType name type)

/-! ## Properties -/

/-- The field's class. -/
def fieldClass (f : ModelField) : FieldClass :=
  f.type.fieldClass

/-- Whether the field's class is `c` or inherits from it. -/
def isInstance (f : ModelField) (c : FieldClass) : Bool :=
  isSubclass f.fieldClass c

instance : HasClass ModelField FieldClass where
  lookupClass := fieldClass

/-- Whether the field has a default value. -/
def hasDefault (f : ModelField) : Bool :=
  f.default.isSome

/-- The options of all choices, groups among them, in order. -/
def flatChoices (f : ModelField) : List (Value × String) :=
  f.choices.flatMap Choice.options

/-- The digits of a decimal field. -/
def maxDigits (f : ModelField) : Option Nat :=
  match f.type with
  | .decimal maxDigits _ => some maxDigits
  | _ => none

/-- The digits of a decimal field after the point. -/
def decimalPlaces (f : ModelField) : Option Nat :=
  match f.type with
  | .decimal _ decimalPlaces => some decimalPlaces
  | _ => none

/-- Whether the field is a relation. -/
def isRelation (f : ModelField) : Bool :=
  f.isInstance .related

/-- The validator that a type attaches by itself. -/
def typeValidators (f : ModelField) : List Validator :=
  match f.type with
  | .email => [.builtInEmail]
  | .slug => [.builtInSlug]
  | .url => [.url Validator.defaultSchemes]
  | _ => []

/-- The bound on length that fields of characters have. -/
def lengthValidators (f : ModelField) : List Validator :=
  if f.isInstance .char then f.maxLength.toList.map .maxLength else []

/-- All validators: the type's, the bound on length, and those attached by hand. -/
def allValidators (f : ModelField) : List Validator :=
  f.typeValidators ++ f.lengthValidators ++ f.validators

end ModelField

end FieldMap
