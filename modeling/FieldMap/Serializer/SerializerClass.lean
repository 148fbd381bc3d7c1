import FieldMap.ClassTable

/-!
# Classes of serializer fields

The classes of serializer fields with their lineages.
-/

namespace FieldMap

/-- A class of serializer fields. -/
inductive SerializerClass where
  | field
  | readOnly
  | model
  | boolean
  | nullBoolean
  | char
  | email
  | slug
  | url
  | uuid
  | ipAddress
  | integer
  | float
  | decimal
  | dateTime
  | date
  | time
  | duration
  | choice
  | multipleChoice
  | filePath
  | file
  | image
  | json
  | related
  | primaryKeyRelated
  | hyperlinkedRelated
  | hyperlinkedIdentity
  | slugRelated
  | stringRelated
  | manyRelated
  | serializer
  deriving DecidableEq

namespace SerializerClass

/-- All classes. -/
def all : List SerializerClass :=
  [.field, .readOnly, .model, .boolean, .nullBoolean, .char, .email, .slug, .url, .uuid, .ipAddress,
    .integer, .float, .decimal, .dateTime, .date, .time, .duration, .choice, .multipleChoice,
    .filePath, .file, .image, .json, .related, .primaryKeyRelated, .hyperlinkedRelated,
    .hyperlinkedIdentity, .slugRelated, .stringRelated, .manyRelated, .serializer]

/-- The class itself and its ancestors, nearest first. -/
def lineage : SerializerClass → List SerializerClass
  | .field => [.field]
  | .email => [.email, .char, .field]
  | .slug => [.slug, .char, .field]
  | .url => [.url, .char, .field]
  | .ipAddress => [.ipAddress, .char, .field]
  | .multipleChoice => [.multipleChoice, .choice, .field]
  | .filePath => [.filePath, .choice, .field]
  | .image => [.image, .file, .field]
  | .primaryKeyRelated => [.primaryKeyRelated, .related, .field]
  | .hyperlinkedRelated => [.hyperlinkedRelated, .related, .field]
  | .hyperlinkedIdentity => [.hyperlinkedIdentity, .hyperlinkedRelated, .related, .field]
  | .slugRelated => [.slugRelated, .related, .field]
  | .stringRelated => [.stringRelated, .related, .field]
  | other => [other, .field]

/-- The name of a class. -/
def name : SerializerClass → String
  | .field => "Field"
  | .readOnly => "ReadOnlyField"
  | .model => "ModelField"
  | .boolean => "BooleanField"
  | .nullBoolean => "NullBooleanField"
  | .char => "CharField"
  | .email => "EmailField"
  | .slug => "SlugField"
  | .url => "URLField"
  | .uuid => "UUIDField"
  | .ipAddress => "IPAddressField"
  | .integer => "IntegerField"
  | .float => "FloatField"
  | .decimal => "DecimalField"
  | .dateTime => "DateTimeField"
  | .date => "DateField"
  | .time => "TimeField"
  | .duration => "DurationField"
  | .choice => "ChoiceField"
  | .multipleChoice => "MultipleChoiceField"
  | .filePath => "FilePathField"
  | .file => "FileField"
  | .image => "ImageField"
  | .json => "JSONField"
  | .related => "RelatedField"
  | .primaryKeyRelated => "PrimaryKeyRelatedField"
  | .hyperlinkedRelated => "HyperlinkedRelatedField"
  | .hyperlinkedIdentity => "HyperlinkedIdentityField"
  | .slugRelated => "SlugRelatedField"
  | .stringRelated => "StringRelatedField"
  | .manyRelated => "ManyRelatedField"
  | .serializer => "Serializer"

/-- The class of a name. -/
def ofName? (s : String) : Option SerializerClass :=
  all.find? (·.name == s)

instance : ClassHierarchy SerializerClass where
  lineage := lineage
  name := name

/-- Every class descends from `field`. -/
theorem field_mem_lineage (c : SerializerClass) : .field ∈ c.lineage := by
  cases c <;> decide

end SerializerClass

end FieldMap
