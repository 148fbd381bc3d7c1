import FieldMap.Json.Record
import FieldMap.Model.FieldClass

/-!
# Types of model fields

The type of a field is its class with what belongs to that class alone: digits of decimals, targets
of relations. In documents a type is an object with the type's name under `type`, as it is written
(`FieldType.toJson`), or an array of the name and the parts in order; `FieldType.ofJson` reads
both.
-/

namespace FieldMap

open Json (DecodeError RecordShape asString asString? asNat32 endAfter required)

/-- What happens to an object when the one it refers to is deleted. -/
inductive OnDelete where
  | cascade
  | protect
  | setNull
  | setDefault
  | doNothing
  deriving DecidableEq

/-- The type of a model field. -/
inductive FieldType where
  | auto
  | bigAuto
  | char
  | text
  | email
  | url
  | slug
  | integer
  | bigInteger
  | smallInteger
  | positiveInteger
  | positiveSmallInteger
  | float
  | decimal (maxDigits decimalPlaces : Nat)
  | boolean
  | nullBoolean
  | date
  | dateTime
  | time
  | duration
  | uuid
  | binary
  | json
  | ipAddress
  | filePath
  | file
  | image
  /-- A relation of many objects to one. -/
  | foreignKey (target : String) (onDelete : OnDelete) (relatedName : Option String)
  /-- A relation of one object to one. -/
  | oneToOne (target : String) (onDelete : OnDelete) (relatedName : Option String)
  /-- A relation of many objects to many, perhaps through a model of its own. -/
  | manyToMany (target : String) (through : Option String) (relatedName : Option String)
  deriving DecidableEq

namespace OnDelete

/-- All actions. -/
def all : List OnDelete :=
  [.cascade, .protect, .setNull, .setDefault, .doNothing]

/-- The name of an action. -/
def name : OnDelete → String
  | .cascade => "Cascade"
  | .protect => "Protect"
  | .setNull => "SetNull"
  | .setDefault => "SetDefault"
  | .doNothing => "DoNothing"

/-- The action of a name. -/
def ofName (s : String) : Except DecodeError OnDelete :=
  match all.find? (·.name == s) with
  | some action => .ok action
  | none => .error (.unknownVariant s (all.map name))

/-- The action that a document holds: its name, or an object whose only member has that name and
nothing under it. -/
def ofJson : Json → Except DecodeError OnDelete
  | .string s => ofName s
  | .object [(s, value)] => do
    let action ← ofName s
    match value with
    | .null | .object [] => return action
    | found => throw (.invalidType found "unit")
  | .object _ => .error .notOneMember
  | found => .error (.invalidType found "string or map")

end OnDelete

namespace FieldType

/-- The class of a type. -/
def fieldClass : FieldType → FieldClass
  | .auto => .auto
  | .bigAuto => .bigAuto
  | .char => .char
  | .text => .text
  | .email => .email
  | .url => .url
  | .slug => .slug
  | .integer => .integer
  | .bigInteger => .bigInteger
  | .smallInteger => .smallInteger
  | .positiveInteger => .positiveInteger
  | .positiveSmallInteger => .positiveSmallInteger
  | .float => .float
  | .decimal .. => .decimal
  | .boolean => .boolean
  | .nullBoolean => .nullBoolean
  | .date => .date
  | .dateTime => .dateTime
  | .time => .time
  | .duration => .duration
  | .uuid => .uuid
  | .binary => .binary
  | .json => .json
  | .ipAddress => .ipAddress
  | .filePath => .filePath
  | .file => .file
  | .image => .image
  | .foreignKey .. => .foreignKey
  | .oneToOne .. => .oneToOne
  | .manyToMany .. => .manyToMany

/-- The greatest length that a field of this type has unless another one is given. -/
def defaultMaxLength : FieldType → Option Nat
  | .email => some 254
  | .url => some 200
  | .slug => some 50
  | .filePath | .file | .image => some 100
  | _ => none

/-- Whether fields of this type always take no value. -/
def forcesNull : FieldType → Bool
  | .nullBoolean => true
  | _ => false

/-- Whether fields of this type may always be left blank. -/
def forcesBlank : FieldType → Bool
  | .boolean | .nullBoolean => true
  | _ => false

/-! ## As documents -/

/-- The name of a type in documents. -/
def name : FieldType → String
  | .auto => "AutoField"
  | .bigAuto => "BigAutoField"
  | .char => "CharField"
  | .text => "TextField"
  | .email => "EmailField"
  | .url => "UrlField"
  | .slug => "SlugField"
  | .integer => "IntegerField"
  | .bigInteger => "BigIntegerField"
  | .smallInteger => "SmallIntegerField"
  | .positiveInteger => "PositiveIntegerField"
  | .positiveSmallInteger => "PositiveSmallIntegerField"
  | .float => "FloatField"
  | .decimal .. => "DecimalField"
  | .boolean => "BooleanField"
  | .nullBoolean => "NullBooleanField"
  | .date => "DateField"
  | .dateTime => "DateTimeField"
  | .time => "TimeField"
  | .duration => "DurationField"
  | .uuid => "UuidField"
  | .binary => "BinaryField"
  | .json => "JsonField"
  | .ipAddress => "IpAddressField"
  | .filePath => "FilePathField"
  | .file => "FileField"
  | .image => "ImageField"
  | .foreignKey .. => "ForeignKey"
  | .oneToOne .. => "OneToOneField"
  | .manyToMany .. => "ManyToManyField"

/-- A text or nothing as a document. -/
def optionalText : Option String → Json
  | some s => .string s
  | none => .null

/-- A type as a document. -/
def toJson (t : FieldType) : Json :=
  .object (("type", .string t.name) ::
    match t with
    | .decimal maxDigits decimalPlaces =>
      [("max_digits", .int maxDigits), ("decimal_places", .int decimalPlaces)]
    | .foreignKey target onDelete relatedName | .oneToOne target onDelete relatedName =>
      [("to", .string target), ("on_delete", .string onDelete.name),
        ("related_name", optionalText relatedName)]
    | .manyToMany target through relatedName =>
      [("to", .string target), ("through", optionalText through),
        ("related_name", optionalText relatedName)]
    | _ => [])

/-- What a document may say of a type beyond its name. -/
structure Draft where
  maxDigits : Option Nat := none
  decimalPlaces : Option Nat := none
  target : Option String := none
  onDelete : Option OnDelete := none
  through : Option String := none
  relatedName : Option String := none

/-- The parts of decimal types. -/
def decimalShape : RecordShape Draft where
  expected := "struct variant FieldType::DecimalField"
  fields := [
    ("max_digits", fun d value => return { d with maxDigits := some (← asNat32 value) }),
    ("decimal_places", fun d value => return { d with decimalPlaces := some (← asNat32 value) })]
  hasDefaults := false

/-- How a target is read. -/
def readTarget (d : Draft) (value : Json) : Except DecodeError Draft :=
  return { d with target := some (← asString value) }

/-- How the name of the other side is read. -/
def readRelatedName (d : Draft) (value : Json) : Except DecodeError Draft :=
  return { d with relatedName := ← asString? value }

/-- The parts of relations to one object. -/
def toOneShape (name : String) : RecordShape Draft where
  expected := "struct variant FieldType::" ++ name
  fields := [
    ("to", readTarget),
    ("on_delete", fun d value => return { d with onDelete := some (← OnDelete.ofJson value) }),
    ("related_name", readRelatedName)]
  hasDefaults := false

/-- The parts of relations to many objects. -/
def toManyShape : RecordShape Draft where
  expected := "struct variant FieldType::ManyToManyField"
  fields := [
    ("to", readTarget),
    ("through", fun d value => return { d with through := ← asString? value }),
    ("related_name", readRelatedName)]
  hasDefaults := false

/-- The types that have no parts. -/
def plain : List FieldType :=
  [.auto, .bigAuto, .char, .text, .email, .url, .slug, .integer, .bigInteger, .smallInteger,
    .positiveInteger, .positiveSmallInteger, .float, .boolean, .nullBoolean, .date, .dateTime,
    .time, .duration, .uuid, .binary, .json, .ipAddress, .filePath, .file, .image]

/-- The names of all types. -/
def names : List String :=
  ["AutoField", "BigAutoField", "CharField", "TextField", "EmailField", "UrlField", "SlugField",
    "IntegerField", "BigIntegerField", "SmallIntegerField", "PositiveIntegerField",
    "PositiveSmallIntegerField", "FloatField", "DecimalField", "BooleanField", "NullBooleanField",
    "DateField", "DateTimeField", "TimeField", "DurationField", "UuidField", "BinaryField",
    "JsonField", "IpAddressField", "FilePathField", "FileField", "ImageField", "ForeignKey",
    "OneToOneField", "ManyToManyField"]

/-- The type of a name with the parts that `parts` holds. Members that a type does not have are
passed over, but items are not. -/
def ofParts (name : String) (parts : Json) : Except DecodeError FieldType := do
  match plain.find? (·.name == name) with
  | some type => do
    if let .array items := parts then endAfter 0 items
    return type
  | none =>
    if name = "DecimalField" then
      let d ← decimalShape.readRest {} parts
      return .decimal (← required "max_digits" d.maxDigits)
        (← required "decimal_places" d.decimalPlaces)
    else if name = "ForeignKey" ∨ name = "OneToOneField" then
      let d ← (toOneShape name).readRest {} parts
      let target ← required "to" d.target
      let onDelete ← required "on_delete" d.onDelete
      if name = "ForeignKey" then return .foreignKey target onDelete d.relatedName
      else return .oneToOne target onDelete d.relatedName
    else
      let d ← toManyShape.readRest {} parts
      return .manyToMany (← required "to" d.target) d.through d.relatedName

/-- The name of a type that a document holds. -/
def nameOf : Json → Except DecodeError String
  | .string s => if names.contains s then .ok s else .error (.unknownVariant s names)
  | found => .error (.invalidType found "variant identifier")

/-- The type that a document holds: an object or an array with the type's name and parts. -/
def ofJson : Json → Except DecodeError FieldType
  | .object members =>
    match Json.member? "type" members with
    | none => .error (.missingField "type")
    | some tag => do
      ofParts (← nameOf tag) (.object (members.filter (·.1 ≠ "type")))
  | .array [] => .error (.missingField "type")
  | .array (tag :: parts) => do ofParts (← nameOf tag) (.array parts)
  | found => .error (.invalidType found "internally tagged enum FieldType")

end FieldType

end FieldMap
