import FieldMap.Model.Ref
import FieldMap.Validator.Basic

/-!
# Unique values

A `UniqueValidator` refuses a value that another object of a model already has. `FieldValidator` is
either that or a validator of single values.
-/

namespace FieldMap

/-- How values are compared in search of another object. -/
inductive UniqueLookup where
  | exact
  /-- Texts without regard to letter case, other values exactly. -/
  | ignoringCase
  deriving DecidableEq

/-- The constraint that no other object has the same value. -/
structure UniqueValidator where
  /-- The manager through which other objects are found. -/
  queryset : ManagerRef
  message : String := "This field must be unique."
  lookup : UniqueLookup := .exact

namespace UniqueValidator

/-- Whether a value counts as the same as another one. -/
def isSame (u : UniqueValidator) (value other : Value) : Bool :=
  match u.lookup, value, other with
  | .ignoringCase, .string a, .string b => Text.lowercase a == Text.lowercase b
  | _, _, _ => value == other

/-- Accepts a value unless one of the existing values is the same. -/
def check (u : UniqueValidator) (value : Value) (existing : List Value) :
    Except ValidationError Unit :=
  Validator.demand (!existing.any (u.isSame value)) u.message "unique"

end UniqueValidator

/-- A validator of a serializer field. -/
inductive FieldValidator where
  | value (v : Validator)
  | unique (u : UniqueValidator)

namespace FieldValidator

/-- A validator's name. -/
def name : FieldValidator → String
  | .value v => v.name
  | .unique _ => "UniqueValidator"

/-- A validator's kind. -/
def kind : FieldValidator → ValidatorKind
  | .value v => v.kind
  | .unique _ => .custom

/-- Whether it is a constraint on uniqueness. -/
def isUnique : FieldValidator → Bool
  | .unique _ => true
  | .value _ => false

end FieldValidator

end FieldMap
