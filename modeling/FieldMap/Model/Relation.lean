import FieldMap.Model.Basic

/-!
# Relations

One side of a relation between models: the field that declares it, if this side has one, and the
model on the other side. `Relation.forward?` is the side of the declaring field, `Relation.reverse`
the other one.
-/

namespace FieldMap

/-- One side of a relation. -/
structure Relation where
  field : Option ModelField
  related : ModelRef
  toMany : Bool
  hasThroughModel : Bool
  reverse : Bool

/-- The model that a relation's target names for a field: the model of that label, the field's own
model for `self`, else the model of that name in the application of the field's model. -/
def resolveTarget (owner : Option ModelRef) (target : String) : ModelRef :=
  match ModelRef.parse? target, owner with
  | some m, _ => m
  | none, some m => if target = "self" then m else ⟨m.appLabel, target⟩
  | none, none => ⟨"", target⟩

namespace Relation

/-- The relation that a field declares. -/
def forward? (f : ModelField) : Option Relation :=
  match f.type with
  | .foreignKey target .. | .oneToOne target .. =>
    some ⟨some f, resolveTarget f.model target, false, false, false⟩
  | .manyToMany target through _ =>
    some ⟨some f, resolveTarget f.model target, true, through.isSome, false⟩
  | _ => none

/-- Exactly the fields of a related class declare relations. -/
theorem isSome_forward? (f : ModelField) : (forward? f).isSome = f.isRelation := by
  unfold forward? ModelField.isRelation ModelField.isInstance ModelField.fieldClass
  cases f.type <;> rfl

/-- The side of a relation that a field of another model declares. -/
def reverseOf (related : ModelRef) (toMany : Bool) : Relation :=
  ⟨none, related, toMany, false, true⟩

end Relation

/-- The sentence that help texts of relations to many objects may end in. -/
def selectionHint : String :=
  " Hold down \"Control\", or \"Command\" on a Mac, to select more than one."

/-- A help text without the hint at its end. -/
def withoutSelectionHint (text : String) : String :=
  let hint := selectionHint.toList
  let chars := text.toList
  if hint.isSuffixOf chars then String.ofList (chars.take (chars.length - hint.length)) else text

end FieldMap
