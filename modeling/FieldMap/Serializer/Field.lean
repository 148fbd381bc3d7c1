import FieldMap.Serializer.Arguments
import FieldMap.Serializer.SerializerClass

/-!
# Serializer fields

A `SerializerField` is a class with arguments, or a serializer of its own for a related model. A
relation to many objects is looked up in class tables as `manyRelated`, whatever its class. A
`BoundField` is a field under the name it has in its serializer, and is looked up as the field is.
-/

namespace FieldMap

/-- A serializer inside another: the model it serializes, and how deep relations are followed
from there. -/
structure NestedSerializer where
  model : ModelRef
  depth : Nat
  deriving DecidableEq

/-- A field of a serializer. -/
structure SerializerField where
  serializerClass : SerializerClass
  arguments : Arguments := {}
  nested : Option NestedSerializer := none

namespace SerializerField

/-- A field that is a serializer of its own. -/
def ofNested (nested : NestedSerializer) (arguments : Arguments) : SerializerField :=
  ⟨.serializer, arguments, some nested⟩

/-- Whether the field's class is `c` or inherits from it. -/
def isInstance (f : SerializerField) (c : SerializerClass) : Bool :=
  isSubclass f.serializerClass c

/-- Whether the field is a relation to many objects. -/
def isManyRelated (f : SerializerField) : Bool :=
  f.arguments.many == some true && f.isInstance .related

instance : HasClass SerializerField SerializerClass where
  lookupClass f := if f.isManyRelated then .manyRelated else f.serializerClass

end SerializerField

/-- A field in its serializer. -/
structure BoundField where
  name : String
  field : SerializerField
  value : Json := .null
  errors : List String := []

namespace BoundField

/-- The label of the field, or one read off its name. -/
def label (b : BoundField) : String :=
  b.field.arguments.label.getD (Text.labelOfName b.name)

instance : HasClass BoundField SerializerClass where
  lookupClass b := HasClass.lookupClass b.field

end BoundField

end FieldMap
