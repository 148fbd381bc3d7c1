import FieldMap.Serializer.Field

/-!
# Styles of fields

How a field is rendered unless its arguments say otherwise: a style is registered for some classes,
and each class has that of its nearest registered ancestor.
-/

namespace FieldMap

namespace Style

/-- An input element of a type. -/
def input (type : String) : Style :=
  ⟨"input.html", some type⟩

/-- The styles of classes. -/
def table : ClassTable SerializerClass Style :=
  .ofList [
    (.field, input "text"),
    (.email, input "email"),
    (.url, input "url"),
    (.integer, input "number"),
    (.float, input "number"),
    (.decimal, input "number"),
    (.dateTime, input "datetime-local"),
    (.date, input "date"),
    (.time, input "time"),
    (.file, input "file"),
    (.boolean, ⟨"checkbox.html", none⟩),
    (.choice, ⟨"select.html", none⟩),
    (.multipleChoice, ⟨"select_multiple.html", none⟩),
    (.related, ⟨"select.html", none⟩),
    (.manyRelated, ⟨"select_multiple.html", none⟩),
    (.serializer, ⟨"fieldset.html", none⟩),
    (.json, ⟨"textarea.html", none⟩)]

/-- The style that a value has by its class. -/
def ofClass {α : Type} [HasClass α SerializerClass] (x : α) : Except ClassNotFound Style :=
  table.findFor x

end Style

/-- The style of a field: that of its class, with what its arguments say in its place. -/
def SerializerField.style (f : SerializerField) : Except ClassNotFound Style := do
  let byClass ← Style.ofClass f
  match f.arguments.style with
  | none => return byClass
  | some given => return ⟨given.baseTemplate, given.inputType <|> byClass.inputType⟩

end FieldMap
