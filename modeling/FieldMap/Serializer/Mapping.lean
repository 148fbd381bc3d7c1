import FieldMap.Model.Relation
import FieldMap.Serializer.Arguments

/-!
# Arguments derived from model fields

What a serializer field is told of the model field or relation that it stands for:
`Arguments.ofField` and `Arguments.ofRelation`. A field that cannot be edited is told that it is
read only, and nothing that speaks of written values. Of a field with choices the choices say all.
For other fields, bounds that a serializer field has an argument for are taken out of the validators
(`Validator.takeLimit`), and validators that it has by itself are dropped (`Validator.dropIf`).
-/

namespace FieldMap

namespace ModelField

/-! ## Labels -/

/-- Whether the field's own label differs from the one read off a name. -/
def needsLabel (f : ModelField) (name : String) : Bool :=
  Text.capitalizeFirst f.verboseName != Text.labelOfName name

/-- The label that must be given for the field under a name. -/
def labelFor (f : ModelField) (name : String) : Option String :=
  if f.verboseName != "" && f.needsLabel name then some (Text.capitalizeFirst f.verboseName)
  else none

/-! ## Validators -/

/-- The validator of uniqueness, if the field is unique and attached to a model. -/
def uniqueValidator? (f : ModelField) : Option UniqueValidator :=
  if f.unique then f.model.map fun m => { queryset := m.defaultManager } else none

/-- Validators of values and the field's validator of uniqueness, if there is any at all. -/
def validatorsWithUnique (f : ModelField) (vs : List Validator) : Option (List FieldValidator) :=
  match vs.map .value ++ f.uniqueValidator?.toList.map .unique with
  | [] => none
  | all => some all

/-- Whether the field is never written: it sets itself, or is not editable. -/
def isFixed (f : ModelField) : Bool :=
  f.isInstance .auto || !f.editable

end ModelField

namespace ValidatorKind

/-- The bound of a greatest length. -/
def maxLength? : ValidatorKind → Option Nat
  | .maxLength limit => some limit
  | _ => none

/-- The bound of a least length. -/
def minLength? : ValidatorKind → Option Nat
  | .minLength limit => some limit
  | _ => none

/-- The bound of a greatest value. -/
def maxValue? : ValidatorKind → Option Binary64
  | .maxValue limit => some limit
  | _ => none

/-- The bound of a least value. -/
def minValue? : ValidatorKind → Option Binary64
  | .minValue limit => some limit
  | _ => none

end ValidatorKind

namespace Validator

/-- The validators without those of which `p` holds, if a condition holds, and else all. -/
def dropIf (condition : Bool) (p : Validator → Bool) (vs : List Validator) : List Validator :=
  if condition then vs.filter (!p ·) else vs

/-- Takes the bound of one kind out of validators: the first one, and with it all of that kind. -/
def takeLimit {α : Type} (ofKind : ValidatorKind → Option α) (vs : List Validator) :
    Option α × List Validator :=
  match vs.findSome? fun v => ofKind v.kind with
  | some limit => (some limit, vs.filter fun v => (ofKind v.kind).isNone)
  | none => (none, vs)

end Validator

/-- A text unless it is empty. -/
def nonEmpty (s : String) : Option String :=
  if s = "" then none else some s

/-- The value `b` if a condition holds. -/
def onlyIf {α : Type} (condition : Bool) (b : α) : Option α :=
  if condition then some b else none

namespace Arguments

/-! ## Fields -/

/-- What holds of every field: the field itself, texts, digits, and the style of long texts. -/
def describing (name : String) (f : ModelField) : Arguments where
  modelField := some f
  label := f.labelFor name
  helpText := nonEmpty f.helpText
  maxDigits := f.maxDigits
  decimalPlaces := f.decimalPlaces
  style := onlyIf (f.isInstance .text) ⟨"textarea.html", none⟩

/-- Also which values may be left out. -/
def withPresence (a : Arguments) (f : ModelField) : Arguments :=
  { a with
    required := onlyIf (f.hasDefault || f.blank || f.null) false
    allowNull := onlyIf (f.null && !f.isInstance .nullBoolean) true
    allowBlank := onlyIf f.blank true }

/-- Also the bounds on values, and the validators that neither a bound replaces nor a serializer
field has by itself. -/
def withBounds (a : Arguments) (f : ModelField) : Arguments :=
  let maxLength := if f.isInstance .char then f.maxLength else none
  let vs := Validator.dropIf maxLength.isSome (·.kind.maxLength?.isSome) f.allValidators
  let (minLength, vs) := Validator.takeLimit ValidatorKind.minLength? vs
  let (maxValue, vs) := Validator.takeLimit ValidatorKind.maxValue? vs
  let (minValue, vs) := Validator.takeLimit ValidatorKind.minValue? vs
  let vs := Validator.dropIf (f.isInstance .url) (·.kind matches .url) vs
  let vs := Validator.dropIf (f.isInstance .email) (· matches .builtInEmail) vs
  let vs := Validator.dropIf (f.isInstance .slug) (· matches .builtInSlug) vs
  { a with maxLength, minLength, maxValue, minValue, validators := f.validatorsWithUnique vs }

/-- The arguments of the serializer field that stands for a model field under a name. -/
def ofField (name : String) (f : ModelField) : Arguments :=
  let a := describing name f
  if f.isFixed then { a with readOnly := some true }
  else
    let a := a.withPresence f
    match f.flatChoices with
    | [] => a.withBounds f
    | choices => { a with choices := some choices }

/-! ## Relations -/

/-- Whether a relation is never written: it goes through a model of its own, or its field is not
editable. -/
def isFixedRelation (r : Relation) : Bool :=
  r.hasThroughModel || r.field.any (!·.editable)

/-- The arguments of the serializer field that stands for a relation under a name. -/
def ofRelation (name : String) (r : Relation) : Arguments :=
  let fixed := isFixedRelation r
  let a : Arguments := {
    queryset := onlyIf (!fixed) r.related.defaultManager
    viewName := some r.related.detailViewName
    many := onlyIf r.toMany true
    label := r.field.bind (·.labelFor name)
    helpText := r.field.bind fun f => nonEmpty (withoutSelectionHint f.helpText)
    readOnly := onlyIf fixed true }
  match fixed, r.field with
  | false, some f =>
    { a with
      required := onlyIf (f.hasDefault || f.null) false
      allowNull := onlyIf f.null true
      validators := f.validatorsWithUnique f.allValidators }
  | _, _ => a

/-- The arguments of a serializer that stands for a relation. -/
def ofNestedRelation (r : Relation) : Arguments :=
  { readOnly := some true, many := onlyIf r.toMany true }

/-- The arguments of the field that links to an object itself. -/
def ofIdentity (m : ModelRef) : Arguments :=
  { viewName := some m.detailViewName }

end Arguments

end FieldMap
