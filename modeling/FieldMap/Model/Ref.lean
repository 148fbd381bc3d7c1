import FieldMap.Json.Record
import FieldMap.Text.Case
import FieldMap.Text.Replace

/-!
# References to models

A `ModelRef` names a model by its application and its own name; its label sets the two apart by a
point. `ModelRef.parse?` reads exactly the labels of which neither part is empty or has a point.
A `ManagerRef` names a manager of a model, through which its objects are found.
-/

namespace FieldMap

open Json (DecodeError RecordShape asString required)

/-- The name of a model. -/
structure ModelRef where
  appLabel : String
  objectName : String
  deriving DecidableEq

/-- The name of a manager of a model. -/
structure ManagerRef where
  model : ModelRef
  name : String
  deriving DecidableEq

namespace ModelRef

/-- The model's name in lower case. -/
def modelName (m : ModelRef) : String :=
  Text.lowercase m.objectName

/-- Application and name with a point between them. -/
def label (m : ModelRef) : String :=
  m.appLabel ++ "." ++ m.objectName

/-- The reference as messages show it: like its label. -/
def display (m : ModelRef) : String :=
  m.appLabel ++ "." ++ m.objectName

/-- The model that a label names. -/
def parse? (label : String) : Option ModelRef :=
  let text := label.toList
  let app := text.takeWhile (· ≠ '.')
  match text.dropWhile (· ≠ '.') with
  | [] => none
  | _ :: name =>
    if app.isEmpty || name.isEmpty || name.contains '.' then none
    else some ⟨String.ofList app, String.ofList name⟩

/-- The manager that a model has of itself. -/
def defaultManager (m : ModelRef) : ManagerRef :=
  ⟨m, "objects"⟩

/-- The name of a model's view in a format that has places for the application's label and for the
model's name. The label is filled in first. -/
def viewName (m : ModelRef) (format : String) : String :=
  Text.replaceAll "{model_name}" m.modelName (Text.replaceAll "{app_label}" m.appLabel format)

/-- The format that view names have unless settings give another one. -/
def defaultViewNameFormat : String :=
  "{model_name}-detail"

/-- The name of a model's detail view in the default format. -/
def detailViewName (m : ModelRef) : String :=
  m.viewName defaultViewNameFormat

/-! ## As documents -/

/-- A reference as a document. -/
def toJson (m : ModelRef) : Json :=
  .object [("app_label", .string m.appLabel), ("object_name", .string m.objectName)]

/-- A reference of which not all may have been read. -/
structure Draft where
  appLabel : Option String := none
  objectName : Option String := none

/-- How references are read. -/
def shape : RecordShape Draft where
  expected := "struct ModelRef"
  fields := [
    ("app_label", fun d value => return { d with appLabel := some (← asString value) }),
    ("object_name", fun d value => return { d with objectName := some (← asString value) })]
  hasDefaults := false

/-- The reference that a document holds. -/
def ofJson (document : Json) : Except DecodeError ModelRef := do
  let draft ← shape.read {} document
  return ⟨← required "app_label" draft.appLabel, ← required "object_name" draft.objectName⟩

end ModelRef

namespace ManagerRef

/-- The model's own name and the manager's with a point between them. -/
def display (m : ManagerRef) : String :=
  m.model.objectName ++ "." ++ m.name

/-- A reference as a document. -/
def toJson (m : ManagerRef) : Json :=
  .object [("model", m.model.toJson), ("name", .string m.name)]

/-- A reference of which not all may have been read. -/
structure Draft where
  model : Option ModelRef := none
  name : Option String := none

/-- How references are read. -/
def shape : RecordShape Draft where
  expected := "struct ManagerRef"
  fields := [
    ("model", fun d value => return { d with model := some (← ModelRef.ofJson value) }),
    ("name", fun d value => return { d with name := some (← asString value) })]
  hasDefaults := false

/-- The reference that a document holds. -/
def ofJson (document : Json) : Except DecodeError ManagerRef := do
  let draft ← shape.read {} document
  return ⟨← required "model" draft.model, ← required "name" draft.name⟩

end ManagerRef

end FieldMap
