import FieldMap.Serializer.Field
import FieldMap.Serializer.Mapping
import FieldMap.Settings.Basic

/-!
# Building serializer fields

A `FieldBuilder` decides which serializer field stands for a model field: by a table of classes,
which always covers the class `field` (`coversField`) and with it every class, and by settings for
relations and links. `FieldBuilder.buildField` builds one field of a model, and
`FieldBuilder.buildFields` the fields that a `Selection` names, or none if one of them fails.
-/

namespace FieldMap

/-! ## Errors -/

/-- Why fields cannot be built. -/
inductive BuildError where
  | classNotFound (cause : ClassNotFound)
  /-- A selected name is no field of the model. -/
  | unknownField (name model : String)
  /-- An excluded name is not among the fields. -/
  | cannotExclude (name model : String)

/-- A building error among all failures. -/
def BuildError.toError : BuildError → Error
  | .classNotFound cause => cause.toError
  | .unknownField name model =>
    .improperlyConfigured ("Field name `" ++ name ++ "` is not valid for model `" ++ model ++ "`.")
  | .cannotExclude name model =>
    .improperlyConfigured ("Cannot exclude the field `" ++ name ++
      "`: it is not a field of model `" ++ model ++ "`.")

/-! ## Classes -/

/-- The serializer classes that stand for model field classes. -/
def defaultMapping : ClassTable FieldClass SerializerClass :=
  .ofList [
    (.field, .model),
    (.auto, .integer),
    (.bigInteger, .integer),
    (.boolean, .boolean),
    (.char, .char),
    (.date, .date),
    (.dateTime, .dateTime),
    (.decimal, .decimal),
    (.duration, .duration),
    (.email, .email),
    (.file, .file),
    (.filePath, .filePath),
    (.float, .float),
    (.ipAddress, .ipAddress),
    (.image, .image),
    (.integer, .integer),
    (.json, .json),
    (.nullBoolean, .nullBoolean),
    (.positiveInteger, .integer),
    (.positiveSmallInteger, .integer),
    (.slug, .slug),
    (.smallInteger, .integer),
    (.text, .char),
    (.time, .time),
    (.url, .url),
    (.uuid, .uuid)]

/-- What decides on the serializer fields of a model. -/
structure FieldBuilder where
  mapping : ClassTable FieldClass SerializerClass
  /-- The class of fields that stand for relations. -/
  relatedField : SerializerClass
  urlFieldName : String
  viewNameFormat : String
  coversField : (mapping.get? .field).isSome = true

/-- Which fields of a model are selected. -/
inductive FieldSelection where
  | all
  | only (names : List String)
  | allBut (names : List String)

/-- Which fields are built, how deep relations are followed, and which fields can only be read. -/
structure Selection where
  fields : FieldSelection := .all
  depth : Nat := 0
  readOnly : List String := []

namespace Arguments

/-- The arguments that fields with choices have. -/
def choiceKeys : List Key :=
  [.readOnly, .required, .label, .helpText, .style, .validators, .allowNull, .allowBlank, .choices]

/-- The arguments that speak of written values. -/
def writingKeys : List Key :=
  [.required, .allowBlank, .allowNull, .minLength, .maxLength, .minValue, .maxValue, .validators,
    .queryset]

/-- The arguments of a field that can only be read. -/
def makeReadOnly (a : Arguments) : Arguments :=
  { a with readOnly := some true }.filter (!writingKeys.contains ·)

/-- The arguments that a class of serializer fields knows. -/
def fitted (a : Arguments) (c : SerializerClass) : Arguments :=
  { a with
    modelField := if isSubclass c .model then a.modelField else none
    allowBlank := if isSubclass c .char || isSubclass c .choice then a.allowBlank else none }

end Arguments

namespace FieldBuilder

/-! ## Making builders -/

theorem isSome_get?_insert {table : ClassTable FieldClass SerializerClass} {k : FieldClass}
    (h : (table.get? k).isSome = true) (c : FieldClass) (s : SerializerClass) :
    ((table.insert c s).2.get? k).isSome = true := by
  rw [ClassTable.get?_insert]
  split
  · rfl
  · exact h

/-- The builder that settings ask for. -/
def ofSettings (s : RestSettings) : FieldBuilder where
  mapping := defaultMapping
  relatedField := if s.hyperlinked then .hyperlinkedRelated else .primaryKeyRelated
  urlFieldName := s.urlFieldName
  viewNameFormat := s.viewNameFormat
  coversField := by decide

/-- The builder of the default settings. -/
def default : FieldBuilder :=
  ofSettings {}

/-- The builder with another class for relations. -/
def withRelatedField (b : FieldBuilder) (c : SerializerClass) : FieldBuilder :=
  { b with relatedField := c }

/-- The builder of the default settings with links for relations. -/
def hyperlinked : FieldBuilder :=
  default.withRelatedField .hyperlinkedRelated

/-- The builder that the settings of a program ask for, which are the defaults from then on if
there are none yet. -/
def ofCell (cell : Settings.Cell) : FieldBuilder × Settings.Cell :=
  let (settings, cell) := cell.getOrDefault
  (ofSettings settings.rest, cell)

/-- The builder with a serializer class registered for a model field class. -/
def withMapping (b : FieldBuilder) (c : FieldClass) (s : SerializerClass) : FieldBuilder :=
  { b with
    mapping := (b.mapping.insert c s).2
    coversField := isSome_get?_insert b.coversField c s }

/-- Whether relations are links. -/
def isHyperlinked (b : FieldBuilder) : Bool :=
  isSubclass b.relatedField .hyperlinkedRelated

/-! ## Single fields -/

/-- The serializer field that stands for a model field which is not followed as a relation. -/
def buildStandardField (b : FieldBuilder) (name : String) (f : ModelField) :
    Except BuildError SerializerField := do
  let mapped ← (b.mapping.findFor f).mapError .classNotFound
  let a := Arguments.ofField name f
  if a.choices.isSome then
    return { serializerClass := .choice
             arguments := (a.filter (Arguments.choiceKeys.contains ·)).fitted .choice }
  else
    return { serializerClass := mapped, arguments := a.fitted mapped }

/-- The serializer field that stands for a relation by keys or links. -/
def buildRelationalField (b : FieldBuilder) (name : String) (r : Relation) : SerializerField where
  serializerClass := b.relatedField
  arguments := { Arguments.ofRelation name r with
    viewName := onlyIf b.isHyperlinked (r.related.viewName b.viewNameFormat) }

/-- The serializer that stands for a relation, followed one level less deep from there. -/
def buildNestedField (r : Relation) (depth : Nat) : SerializerField :=
  .ofNested ⟨r.related, depth - 1⟩ (Arguments.ofNestedRelation r)

/-- The field that links to an object itself. -/
def buildUrlField (b : FieldBuilder) (m : ModelRef) : SerializerField where
  serializerClass := .hyperlinkedIdentity
  arguments := { Arguments.ofIdentity m with viewName := some (m.viewName b.viewNameFormat) }

/-- The model field that a name selects: the primary key for `pk`, else the field of that name. -/
def resolve? (m : Model) (name : String) : Option ModelField :=
  if name = "pk" then m.primaryKey? else m.field? name

/-- The serializer field of a name in a model. -/
def buildField (b : FieldBuilder) (name : String) (m : Model) (depth : Nat) :
    Except BuildError SerializerField :=
  match resolve? m name with
  | some f =>
    match Relation.forward? f with
    | some r =>
      if 0 < depth then .ok (buildNestedField r depth) else .ok (b.buildRelationalField name r)
    | none => b.buildStandardField name f
  | none =>
    if name = b.urlFieldName then .ok (b.buildUrlField m.ref)
    else .error (.unknownField name m.objectName)

/-! ## All fields of a model -/

/-- The names of all fields: the link to the object or its primary key, the fields that are no
relations, and the relations. -/
def defaultFieldNames (b : FieldBuilder) (m : Model) : List String :=
  let first :=
    if b.isHyperlinked then [b.urlFieldName] else m.primaryKey?.toList.map ModelField.name
  let others := m.fields.filter fun f => !f.primaryKey
  first ++ (others.filter (!·.isRelation)).map ModelField.name ++
    (others.filter (·.isRelation)).map ModelField.name

/-- The names without an excluded one, which must be among them. -/
def exclude (m : Model) (names : List String) (name : String) : Except BuildError (List String) :=
  if names.contains name then .ok (names.filter (· != name))
  else .error (.cannotExclude name m.objectName)

/-- The names that are selected. -/
def selectedNames (b : FieldBuilder) (m : Model) : FieldSelection → Except BuildError (List String)
  | .all => .ok (b.defaultFieldNames m)
  | .only names => .ok names
  | .allBut excluded => excluded.foldlM (exclude m) (b.defaultFieldNames m)

/-- The serializer field of a selected name. -/
def buildSelected (b : FieldBuilder) (m : Model) (s : Selection) (name : String) :
    Except BuildError (String × SerializerField) := do
  let field ← b.buildField name m s.depth
  if s.readOnly.contains name then
    return (name, { field with arguments := field.arguments.makeReadOnly })
  else return (name, field)

/-- The serializer fields that a selection names, in order. -/
def buildFields (b : FieldBuilder) (m : Model) (s : Selection) :
    Except BuildError (List (String × SerializerField)) := do
  (← b.selectedNames m s.fields).mapM (b.buildSelected m s)

end FieldBuilder

end FieldMap
