import FieldMap.Model.ModelField
import FieldMap.Validator.Unique

/-!
# Arguments of serializer fields

The named arguments that a serializer field is made with, each of which may be absent. They have
keys in a fixed order (`Arguments.Key.all`); `Arguments.keys` lists the present ones, `filter`
keeps those whose keys are wanted, `remove` takes one away by its name, and `retain` all but some.
-/

namespace FieldMap

/-- How a field is rendered: a template, and the type of its input element if it has one. -/
structure Style where
  baseTemplate : String
  inputType : Option String := none
  deriving DecidableEq

/-- The arguments of a serializer field. -/
structure Arguments where
  modelField : Option ModelField := none
  queryset : Option ManagerRef := none
  viewName : Option String := none
  many : Option Bool := none
  label : Option String := none
  helpText : Option String := none
  maxDigits : Option Nat := none
  decimalPlaces : Option Nat := none
  style : Option Style := none
  readOnly : Option Bool := none
  required : Option Bool := none
  allowNull : Option Bool := none
  allowBlank : Option Bool := none
  choices : Option (List (Value × String)) := none
  maxLength : Option Nat := none
  minLength : Option Nat := none
  maxValue : Option Binary64 := none
  minValue : Option Binary64 := none
  validators : Option (List FieldValidator) := none

namespace Arguments

/-! ## Keys -/

/-- The key of an argument. -/
inductive Key where
  | modelField
  | queryset
  | viewName
  | many
  | label
  | helpText
  | maxDigits
  | decimalPlaces
  | style
  | readOnly
  | required
  | allowNull
  | allowBlank
  | choices
  | maxLength
  | minLength
  | maxValue
  | minValue
  | validators
  deriving DecidableEq

namespace Key

/-- All keys, in order. -/
def all : List Key :=
  [.modelField, .queryset, .viewName, .many, .label, .helpText, .maxDigits, .decimalPlaces, .style,
    .readOnly, .required, .allowNull, .allowBlank, .choices, .maxLength, .minLength, .maxValue,
    .minValue, .validators]

/-- The name of a key. -/
def name : Key → String
  | .modelField => "model_field"
  | .queryset => "queryset"
  | .viewName => "view_name"
  | .many => "many"
  | .label => "label"
  | .helpText => "help_text"
  | .maxDigits => "max_digits"
  | .decimalPlaces => "decimal_places"
  | .style => "style"
  | .readOnly => "read_only"
  | .required => "required"
  | .allowNull => "allow_null"
  | .allowBlank => "allow_blank"
  | .choices => "choices"
  | .maxLength => "max_length"
  | .minLength => "min_length"
  | .maxValue => "max_value"
  | .minValue => "min_value"
  | .validators => "validators"

end Key

/-- Whether the argument of a key is present. -/
def has (a : Arguments) : Key → Bool
  | .modelField => a.modelField.isSome
  | .queryset => a.queryset.isSome
  | .viewName => a.viewName.isSome
  | .many => a.many.isSome
  | .label => a.label.isSome
  | .helpText => a.helpText.isSome
  | .maxDigits => a.maxDigits.isSome
  | .decimalPlaces => a.decimalPlaces.isSome
  | .style => a.style.isSome
  | .readOnly => a.readOnly.isSome
  | .required => a.required.isSome
  | .allowNull => a.allowNull.isSome
  | .allowBlank => a.allowBlank.isSome
  | .choices => a.choices.isSome
  | .maxLength => a.maxLength.isSome
  | .minLength => a.minLength.isSome
  | .maxValue => a.maxValue.isSome
  | .minValue => a.minValue.isSome
  | .validators => a.validators.isSome

/-- The names of all keys, in order. -/
def allKeys : List String :=
  Key.all.map Key.name

/-- The names of the present keys, in order. -/
def keys (a : Arguments) : List String :=
  (Key.all.filter a.has).map Key.name

/-- Whether the argument of a name is present. -/
def contains (a : Arguments) (name : String) : Bool :=
  a.keys.contains name

/-- The number of arguments that are present. -/
def size (a : Arguments) : Nat :=
  a.keys.length

/-- Whether no argument is present. -/
def isEmpty (a : Arguments) : Bool :=
  a.keys.isEmpty

/-- Whether the field can only be read. -/
def isReadOnly (a : Arguments) : Bool :=
  a.readOnly == some true

/-! ## Filters -/

/-- The arguments whose keys are wanted. -/
def filter (wanted : Key → Bool) (a : Arguments) : Arguments where
  modelField := a.modelField.filter fun _ => wanted .modelField
  queryset := a.queryset.filter fun _ => wanted .queryset
  viewName := a.viewName.filter fun _ => wanted .viewName
  many := a.many.filter fun _ => wanted .many
  label := a.label.filter fun _ => wanted .label
  helpText := a.helpText.filter fun _ => wanted .helpText
  maxDigits := a.maxDigits.filter fun _ => wanted .maxDigits
  decimalPlaces := a.decimalPlaces.filter fun _ => wanted .decimalPlaces
  style := a.style.filter fun _ => wanted .style
  readOnly := a.readOnly.filter fun _ => wanted .readOnly
  required := a.required.filter fun _ => wanted .required
  allowNull := a.allowNull.filter fun _ => wanted .allowNull
  allowBlank := a.allowBlank.filter fun _ => wanted .allowBlank
  choices := a.choices.filter fun _ => wanted .choices
  maxLength := a.maxLength.filter fun _ => wanted .maxLength
  minLength := a.minLength.filter fun _ => wanted .minLength
  maxValue := a.maxValue.filter fun _ => wanted .maxValue
  minValue := a.minValue.filter fun _ => wanted .minValue
  validators := a.validators.filter fun _ => wanted .validators

/-- After a filter the wanted ones of the arguments are present. -/
theorem has_filter (wanted : Key → Bool) (a : Arguments) (key : Key) :
    (a.filter wanted).has key = (a.has key && wanted key) := by
  cases key <;> simp only [filter, has] <;> cases wanted _ <;> simp

/-- A filter keeps the order of the keys. -/
theorem keys_filter (wanted : Key → Bool) (a : Arguments) :
    (a.filter wanted).keys = ((Key.all.filter a.has).filter wanted).map Key.name := by
  have : (a.filter wanted).has = fun key => wanted key && a.has key :=
    funext fun key => by rw [has_filter, Bool.and_comm]
  rw [keys, this, List.filter_filter]

/-- The arguments without the one of a name, and whether it was present. -/
def remove (a : Arguments) (name : String) : Bool × Arguments :=
  (a.contains name, a.filter (·.name != name))

/-- The arguments whose names are allowed: every other one that is present is removed. -/
def retain (a : Arguments) (allowed : List String) : Arguments :=
  a.keys.foldl (fun left name => if allowed.contains name then left else (left.remove name).2) a

end Arguments

end FieldMap
