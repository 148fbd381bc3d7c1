import FieldMap.Json.Basic
import FieldMap.Number.Layout
import FieldMap.Text.Quoted

/-!
# Typed reading of JSON

Readers of single values (`asBool`, `asString`, …) and of records (`RecordShape.read`). A record is
read from an object, member by member in document order with unknown ones passed over, or from an
array by position; `RecordShape.readRest` reads one whose tag stands in the same object or array.
What can go wrong is a `DecodeError`, whose text is `DecodeError.message`.
-/

namespace FieldMap.Json

/-- Why a document is not of the wanted type. -/
inductive DecodeError where
  /-- A value of another kind. -/
  | invalidType (found : Json) (expected : String)
  /-- An integer outside the wanted range. -/
  | outOfRange (found : Int) (expected : String)
  /-- An object in place of a variant that has not exactly one member. -/
  | notOneMember
  /-- An array that ends before a field that has no default. -/
  | tooShort (length : Nat) (expected : String)
  /-- An array with more items than the record has fields. -/
  | tooLong (length : Nat)
  /-- A rest of an array with more items than the `taken` that may be read from it. -/
  | surplus (length taken : Nat)
  | missingField (name : String)
  | unknownVariant (name : String) (known : List String)

/-- A value as messages name it. -/
def describe : Json → String
  | .null => "null"
  | .bool value => "boolean `" ++ (if value then "true" else "false") ++ "`"
  | .int value => "integer `" ++ toString value ++ "`"
  | .float value => "floating point `" ++ jsonLayout.write value ++ "`"
  | .string value => "string " ++ Text.quote value
  | .array _ => "sequence"
  | .object _ => "map"

/-- The text of a reading error. -/
def DecodeError.message : DecodeError → String
  | .invalidType found expected => "invalid type: " ++ found.describe ++ ", expected " ++ expected
  | .outOfRange found expected =>
    "invalid value: integer `" ++ toString found ++ "`, expected " ++ expected
  | .notOneMember => "invalid value: map, expected map with a single key"
  | .tooShort length expected =>
    "invalid length " ++ toString length ++ ", expected " ++ expected
  | .tooLong length =>
    "invalid length " ++ toString length ++ ", expected fewer elements in array"
  | .surplus length taken =>
    "invalid length " ++ toString length ++ ", expected " ++ toString taken ++
      (if taken = 1 then " element in sequence" else " elements in sequence")
  | .missingField name => "missing field `" ++ name ++ "`"
  | .unknownVariant name known =>
    "unknown variant `" ++ name ++ "`, expected one of " ++
      ", ".intercalate (known.map fun variant => "`" ++ variant ++ "`")

/-! ## Single values -/

/-- A truth value. -/
def asBool : Json → Except DecodeError Bool
  | .bool value => .ok value
  | found => .error (.invalidType found "a boolean")

/-- A text. -/
def asString : Json → Except DecodeError String
  | .string value => .ok value
  | found => .error (.invalidType found "a string")

/-- A text, or nothing for `null`. -/
def asString? : Json → Except DecodeError (Option String)
  | .null => .ok none
  | found => (asString found).map some

/-- An object's members. -/
def asMembers : Json → Except DecodeError Members
  | .object members => .ok members
  | found => .error (.invalidType found "a map")

/-- A natural number of 32 bits. -/
def asNat32 : Json → Except DecodeError Nat
  | .int value =>
    if 0 ≤ value ∧ value < Nat.pow 2 32 then .ok value.toNat else .error (.outOfRange value "u32")
  | found => .error (.invalidType found "u32")

/-! ## Records -/

/-- A record that is filled field by field: how a message calls it, its fields in order, and
whether fields that an array does not reach keep their defaults. -/
structure RecordShape (Draft : Type) where
  expected : String
  fields : List (String × (Draft → Json → Except DecodeError Draft))
  hasDefaults : Bool

/-- Fills a draft from an object's members, in their order. -/
def RecordShape.readMembers {Draft : Type} (shape : RecordShape Draft) (draft : Draft)
    (members : Members) : Except DecodeError Draft :=
  members.foldlM (fun draft (key, value) =>
    match shape.fields.lookup key with
    | some read => read draft value
    | none => .ok draft) draft

/-- Fills a draft from an array's items, `index` fields having been read. -/
def RecordShape.readItems {Draft : Type} (shape : RecordShape Draft) (total index : Nat) :
    (fields : List (String × (Draft → Json → Except DecodeError Draft))) → List Json → Draft →
      Except DecodeError Draft
  | [], [], draft => .ok draft
  | [], _ :: _, _ => .error (.tooLong total)
  | _ :: _, [], draft =>
    if shape.hasDefaults then .ok draft
    else .error (.tooShort index
      (shape.expected ++ " with " ++ toString shape.fields.length ++ " elements"))
  | (_, read) :: fields, item :: items, draft => do
    shape.readItems total (index + 1) fields items (← read draft item)

/-- Fills a draft from a document. -/
def RecordShape.read {Draft : Type} (shape : RecordShape Draft) (draft : Draft) :
    Json → Except DecodeError Draft
  | .object members => shape.readMembers draft members
  | .array items => shape.readItems items.length 0 shape.fields items draft
  | found => .error (.invalidType found shape.expected)

/-- Checks that a rest of an array holds no more items than the `taken` that are read from it. -/
def endAfter (taken : Nat) (items : List Json) : Except DecodeError Unit :=
  if items.length ≤ taken then .ok () else .error (.surplus items.length taken)

/-- Fills a draft from the rest of a document whose tag has been taken: the other members of an
object, or the other items of an array, all of which must be there and fit before any is found to
be too many. -/
def RecordShape.readRest {Draft : Type} (shape : RecordShape Draft) (draft : Draft) :
    Json → Except DecodeError Draft
  | .array items => do
    let filled ← shape.read draft (.array (items.take shape.fields.length))
    endAfter shape.fields.length items
    return filled
  | rest => shape.read draft rest

/-- A field that must have been filled. -/
def required {α : Type} (name : String) : Option α → Except DecodeError α
  | some value => .ok value
  | none => .error (.missingField name)

end FieldMap.Json
