import FieldMap.Serializer.Arguments

/-!
# Arguments as documents

A field's arguments as an object of the present ones. What stands under which name is listed by hand
(`Arguments.written`), and is made a document (`Arguments.toJson`) or a text (`Arguments.write`)
without the other. A bound on values is written as an integer where it is one (`limitToJson`).
-/

namespace FieldMap

/-- The text of an object, from the names and the texts of its members. -/
def writeObject (members : List (String × String)) : String :=
  "\x7b" ++ ",".intercalate (members.map fun member =>
    Json.writeText member.1 ++ ":" ++ member.2) ++ "\x7d"

/-- Texts in brackets with commas between them. -/
def writeList (items : List String) : String :=
  "[" ++ ",".intercalate items ++ "]"

/-- A style as a document. -/
def Style.toJson (s : Style) : Json :=
  .object (("base_template", .string s.baseTemplate) ::
    match s.inputType with
    | some inputType => [("input_type", .string inputType)]
    | none => [])

/-- The text of a style. -/
def Style.write (s : Style) : String :=
  writeObject (("base_template", Json.writeText s.baseTemplate) ::
    match s.inputType with
    | some inputType => [("input_type", Json.writeText inputType)]
    | none => [])

/-- The number after the last 64-bit integer with a sign. -/
def int64Range : Binary64 :=
  .ofInt (Nat.pow 2 63)

/-- Whether a bound on values is written as an integer: if it is whole and fits 64 bits with a
sign. -/
def isIntegerLimit (x : Binary64) : Bool :=
  x.fract == .zero false && (int64Range.neg.le x && x.lt int64Range)

/-- A bound on values as a document. -/
def limitToJson (x : Binary64) : Json :=
  if isIntegerLimit x then .int x.toInt64 else if x.isFinite then .float x else .null

/-- The text of a bound on values. -/
def writeLimit (x : Binary64) : String :=
  if isIntegerLimit x then toString x.toInt64 else Json.writeFloat x

/-- What is written of one argument. -/
inductive WrittenArgument where
  | text (value : String)
  | bool (value : Bool)
  | natural (value : Nat)
  | limit (value : Binary64)
  | style (value : Style)
  | choices (options : List (Value × String))
  | names (values : List String)

namespace WrittenArgument

/-- What is written as a document. -/
def toJson : WrittenArgument → Json
  | .text value => .string value
  | .bool value => .bool value
  | .natural value => .int value
  | .limit value => limitToJson value
  | .style value => value.toJson
  | .choices options => .array (options.map fun o => .array [o.1.toJson, .string o.2])
  | .names values => .array (values.map .string)

/-- The text of what is written. -/
def write : WrittenArgument → String
  | .text value => Json.writeText value
  | .bool value => if value then "true" else "false"
  | .natural value => toString value
  | .limit value => writeLimit value
  | .style value => value.write
  | .choices options =>
    writeList (options.map fun o => writeList [o.1.toJson.write, Json.writeText o.2])
  | .names values => writeList (values.map Json.writeText)

end WrittenArgument

namespace Arguments

/-- What is written of the arguments, one after the other, each under its name. -/
def written (a : Arguments) : List (String × WrittenArgument) :=
  List.filterMap id [
    a.modelField.map fun f => ("model_field", .text f.name),
    a.queryset.map fun m => ("queryset", .text m.display),
    a.viewName.map fun s => ("view_name", .text s),
    a.many.map fun b => ("many", .bool b),
    a.label.map fun s => ("label", .text s),
    a.helpText.map fun s => ("help_text", .text s),
    a.maxDigits.map fun n => ("max_digits", .natural n),
    a.decimalPlaces.map fun n => ("decimal_places", .natural n),
    a.style.map fun s => ("style", .style s),
    a.readOnly.map fun b => ("read_only", .bool b),
    a.required.map fun b => ("required", .bool b),
    a.allowNull.map fun b => ("allow_null", .bool b),
    a.allowBlank.map fun b => ("allow_blank", .bool b),
    a.choices.map fun options => ("choices", .choices options),
    a.maxLength.map fun n => ("max_length", .natural n),
    a.minLength.map fun n => ("min_length", .natural n),
    a.maxValue.map fun x => ("max_value", .limit x),
    a.minValue.map fun x => ("min_value", .limit x),
    a.validators.map fun vs => ("validators", .names (vs.map FieldValidator.name))]

/-- The arguments as an object. -/
def toJson (a : Arguments) : Json :=
  .object (a.written.map fun (name, argument) => (name, argument.toJson))

/-- The text of the arguments. -/
def write (a : Arguments) : String :=
  writeObject (a.written.map fun (name, argument) => (name, argument.write))

end Arguments

end FieldMap
