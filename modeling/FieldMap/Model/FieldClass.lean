import FieldMap.ClassTable

/-!
# Classes of model fields

The classes of model fields with their lineages. Two of them, `field` and `related`, are only
ancestors of others.
-/

namespace FieldMap

/-- A class of model fields. -/
inductive FieldClass where
  | field
  | auto
  | bigAuto
  | char
  | text
  | email
  | url
  | slug
  | integer
  | bigInteger
  | smallInteger
  | positiveInteger
  | positiveSmallInteger
  | float
  | decimal
  | boolean
  | nullBoolean
  | date
  | dateTime
  | time
  | duration
  | uuid
  | binary
  | json
  | ipAddress
  | filePath
  | file
  | image
  | related
  | foreignKey
  | oneToOne
  | manyToMany
  deriving DecidableEq

namespace FieldClass

/-- All classes. -/
def all : List FieldClass :=
  [.field, .auto, .bigAuto, .char, .text, .email, .url, .slug, .integer, .bigInteger,
    .smallInteger, .positiveInteger, .positiveSmallInteger, .float, .decimal, .boolean,
    .nullBoolean, .date, .dateTime, .time, .duration, .uuid, .binary, .json, .ipAddress, .filePath,
    .file, .image, .related, .foreignKey, .oneToOne, .manyToMany]

/-- The class itself and its ancestors, nearest first. -/
def lineage : FieldClass → List FieldClass
  | .field => [.field]
  | .auto => [.auto, .integer, .field]
  | .bigAuto => [.bigAuto, .auto, .bigInteger, .integer, .field]
  | .email => [.email, .char, .field]
  | .url => [.url, .char, .field]
  | .slug => [.slug, .char, .field]
  | .bigInteger => [.bigInteger, .integer, .field]
  | .smallInteger => [.smallInteger, .integer, .field]
  | .positiveInteger => [.positiveInteger, .integer, .field]
  | .positiveSmallInteger => [.positiveSmallInteger, .smallInteger, .integer, .field]
  | .nullBoolean => [.nullBoolean, .boolean, .field]
  | .dateTime => [.dateTime, .date, .field]
  | .image => [.image, .file, .field]
  | .foreignKey => [.foreignKey, .related, .field]
  | .oneToOne => [.oneToOne, .foreignKey, .related, .field]
  | .manyToMany => [.manyToMany, .related, .field]
  | other => [other, .field]

/-- The name of a class. -/
def name : FieldClass → String
  | .field => "Field"
  | .auto => "AutoField"
  | .bigAuto => "BigAutoField"
  | .char => "CharField"
  | .text => "TextField"
  | .email => "EmailField"
  | .url => "URLField"
  | .slug => "SlugField"
  | .integer => "IntegerField"
  | .bigInteger => "BigIntegerField"
  | .smallInteger => "SmallIntegerField"
  | .positiveInteger => "PositiveIntegerField"
  | .positiveSmallInteger => "PositiveSmallIntegerField"
  | .float => "FloatField"
  | .decimal => "DecimalField"
  | .boolean => "BooleanField"
  | .nullBoolean => "NullBooleanField"
  | .date => "DateField"
  | .dateTime => "DateTimeField"
  | .time => "TimeField"
  | .duration => "DurationField"
  | .uuid => "UUIDField"
  | .binary => "BinaryField"
  | .json => "JSONField"
  | .ipAddress => "GenericIPAddressField"
  | .filePath => "FilePathField"
  | .file => "FileField"
  | .image => "ImageField"
  | .related => "RelatedField"
  | .foreignKey => "ForeignKey"
  | .oneToOne => "OneToOneField"
  | .manyToMany => "ManyToManyField"

/-- The class of a name. -/
def ofName? (s : String) : Option FieldClass :=
  all.find? (·.name == s)

instance : ClassHierarchy FieldClass where
  lineage := lineage
  name := name

/-- Every class descends from `field`. -/
theorem field_mem_lineage (c : FieldClass) : .field ∈ c.lineage := by
  cases c <;> decide

end FieldClass

end FieldMap
