import FieldMap.Model.ModelField

/-!
# Models

A `Model` is an application's label, a name, and fields that are attached to it. Fields are found
by name, the first one that matches counting.
-/

namespace FieldMap

/-- The field as a field of a model. -/
def ModelField.attach (f : ModelField) (m : ModelRef) : ModelField :=
  { f with model := some m }

/-- A model. -/
structure Model where
  appLabel : String
  objectName : String
  verboseName : String
  fields : List ModelField

namespace Model

/-- The model of an application, a name and fields, which are attached to it. -/
def ofFields (appLabel objectName : String) (fields : List ModelField) : Model where
  appLabel := appLabel
  objectName := objectName
  verboseName := Text.camelCaseToSpaces objectName
  fields := fields.map (·.attach ⟨appLabel, objectName⟩)

/-- The reference that names the model. -/
def ref (m : Model) : ModelRef :=
  ⟨m.appLabel, m.objectName⟩

/-- The model's name in lower case. -/
def modelName (m : Model) : String :=
  m.ref.modelName

/-- The first field of a name. -/
def field? (m : Model) (name : String) : Option ModelField :=
  m.fields.find? (·.name == name)

/-- The first field that is a primary key. -/
def primaryKey? (m : Model) : Option ModelField :=
  m.fields.find? (·.primaryKey)

end Model

end FieldMap
