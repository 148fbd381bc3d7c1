import FieldMap.Proofs.Building
import Mathlib.Data.ENat.Basic

/-!
# How deep serializers nest

A serializer inside another one tells the model it stands for and the depth that is left there, and
the fields of that model are built at this depth. Along a chain of relations (`RelationChain`),
which may be endless and return to models that it has passed, each level has one level less left
(`RelationChain.depthAt?_eq`). So the fields are nested on as many levels as the given depth says,
and the field of the next level is flat (`RelationChain.fieldAt?_boundedByDepth`). Whatever the
models, less depth is left in a serializer than in the one around it (`IsNestedIn.depth_lt`), and so
following serializers into serializers ends (`wellFounded_isNestedIn`).
-/

namespace FieldMap.FieldBuilder

/-! ## Serializers in serializers -/

/-- A serializer of a model at a depth stands inside another one: a field of some name there is
nested, refers to the model and leaves the depth. -/
inductive IsNestedIn (b : FieldBuilder) : Model × ℕ → Model × ℕ → Prop
  | intro {outer inner : Model} {name : String} {depth : ℕ} {field : SerializerField}
      {nested : NestedSerializer} (hf : b.buildField name outer depth = .ok field)
      (hn : field.nested = some nested) (hm : inner.ref = nested.model) :
      IsNestedIn b (inner, nested.depth) (outer, depth)

/-- Less depth is left inside. -/
theorem IsNestedIn.depth_lt {b : FieldBuilder} {inner outer : Model × ℕ}
    (h : b.IsNestedIn inner outer) : inner.2 < outer.2 := by
  obtain ⟨hf, hn, -⟩ := h
  cases buildField_eq_ok_iff.mp hf with
  | nested _ _ hd =>
    cases hn
    exact Nat.sub_lt hd Nat.one_pos
  | related | fixed | choice | bounded | link => cases hn

/-- No serializers nest endlessly. -/
theorem wellFounded_isNestedIn (b : FieldBuilder) : WellFounded b.IsNestedIn :=
  Subrelation.wf IsNestedIn.depth_lt (InvImage.wf Prod.snd Nat.lt_wfRel.wf)

/-! ## Chains of relations -/

/-- A chain of models, in each of which but the last a name stands for a relation to the next one.
It may return to models that it has passed. -/
structure RelationChain where
  /-- The number of relations, `⊤` in a chain that does not end. -/
  length : ℕ∞
  model : ℕ → Model
  name : ℕ → String
  field : ℕ → ModelField
  relation : ℕ → Relation
  resolve?_eq : ∀ i : ℕ, i < length → resolve? (model i) (name i) = some (field i)
  forward?_eq : ∀ i : ℕ, i < length → Relation.forward? (field i) = some (relation i)
  ref_eq : ∀ i : ℕ, i < length → (model (i + 1)).ref = (relation i).related

namespace RelationChain

variable (c : RelationChain) (b : FieldBuilder) (depth : ℕ)

/-- The serializer field of a level of the chain, built at a depth. -/
def buildField? (i left : ℕ) : Option SerializerField :=
  (b.buildField (c.name i) (c.model i) left).toOption

/-- The depth that is left on a level of the chain: the given one on the first level, and then the
one that the serializer on the level before leaves, if there is one. -/
def depthAt? : ℕ → Option ℕ
  | 0 => some depth
  | i + 1 => do
    let field ← c.buildField? b i (← depthAt? i)
    let nested ← field.nested
    return nested.depth

/-- The serializer field of a level of the chain, built at the depth that is left there. -/
def fieldAt? (i : ℕ) : Option SerializerField := do
  c.buildField? b i (← c.depthAt? b depth i)

variable {c b depth} {i left : ℕ}

/-- With depth left, the field of a level is nested. -/
theorem buildField?_of_pos (hi : i < c.length) (hd : 0 < left) :
    c.buildField? b i left = some (buildNestedField (c.relation i) left) := by
  rw [buildField?, buildField_eq_ok_iff.mpr (.nested (c.resolve?_eq i hi) (c.forward?_eq i hi) hd)]
  rfl

/-- Without depth left, it is flat. -/
theorem buildField?_zero (hi : i < c.length) :
    c.buildField? b i 0 = some (b.buildRelationalField (c.name i) (c.relation i)) := by
  rw [buildField?,
    buildField_eq_ok_iff.mpr (.related (c.resolve?_eq i hi) (c.forward?_eq i hi) rfl)]
  rfl

/-- Each level down to the given depth has one level less left than the level before. -/
theorem depthAt?_eq (hi : i ≤ c.length) (hd : i ≤ depth) :
    c.depthAt? b depth i = some (depth - i) := by
  induction i with
  | zero => rfl
  | succ i ih =>
    have hlt : i < c.length := lt_of_lt_of_le (Nat.cast_lt.mpr (Nat.lt_succ_self i)) hi
    have hleft : 0 < depth - i := by omega
    rw [depthAt?, ih hlt.le (by omega)]
    show (c.buildField? b i (depth - i)).bind _ = _
    rw [buildField?_of_pos hlt hleft]
    rfl

/-- The levels below have none left: the field on the last level with a depth is flat. -/
theorem depthAt?_eq_none (hi : i ≤ c.length) (hd : depth < i) :
    c.depthAt? b depth i = none := by
  induction i with
  | zero => cases hd
  | succ i ih =>
    have hlt : i < c.length := lt_of_lt_of_le (Nat.cast_lt.mpr (Nat.lt_succ_self i)) hi
    rw [depthAt?]
    rcases Nat.lt_succ_iff_lt_or_eq.mp hd with hd | rfl
    · rw [ih hlt.le hd]
      rfl
    · rw [depthAt?_eq hlt.le le_rfl, Nat.sub_self]
      show (c.buildField? b depth 0).bind _ = _
      rw [buildField?_zero hlt]
      rfl

theorem fieldAt?_of_lt (hi : i < c.length) (hd : i < depth) :
    c.fieldAt? b depth i = some (buildNestedField (c.relation i) (depth - i)) := by
  rw [fieldAt?, depthAt?_eq hi.le hd.le]
  exact buildField?_of_pos hi (Nat.sub_pos_of_lt hd)

theorem fieldAt?_depth (hi : depth < c.length) :
    c.fieldAt? b depth depth =
      some (b.buildRelationalField (c.name depth) (c.relation depth)) := by
  rw [fieldAt?, depthAt?_eq hi.le le_rfl, Nat.sub_self]
  exact buildField?_zero hi

theorem fieldAt?_of_gt (hi : i < c.length) (hd : depth < i) : c.fieldAt? b depth i = none := by
  rw [fieldAt?, depthAt?_eq_none hi.le hd]
  rfl

/-- Along a chain of relations, the field of each level above the given depth is a serializer for
the model of the next level, which can only be read and leaves one level less each time. The field
of the level at the depth is flat and of the builder's class for relations. So the levels above the
depth, and no others, have nested fields, and in general no serializers nest endlessly. -/
theorem fieldAt?_boundedByDepth (c : RelationChain) (b : FieldBuilder) (depth : ℕ) :
    (∀ i : ℕ, i < c.length → i < depth → c.fieldAt? b depth i = some {
      serializerClass := .serializer
      arguments :=
        { readOnly := some true, many := if (c.relation i).toMany then some true else none }
      nested := some ⟨(c.model (i + 1)).ref, depth - 1 - i⟩ }) ∧
    (depth < c.length → ∃ field, c.fieldAt? b depth depth = some field ∧
      field = b.buildRelationalField (c.name depth) (c.relation depth) ∧
      field.serializerClass = b.relatedField ∧ field.nested = none) ∧
    (∀ i : ℕ, i < c.length →
      ((∃ field nested, c.fieldAt? b depth i = some field ∧ field.nested = some nested) ↔
        i < depth)) ∧
    WellFounded b.IsNestedIn := by
  refine ⟨fun i hi hd => ?_, fun hi => ⟨_, fieldAt?_depth hi, rfl, rfl, rfl⟩,
    fun i hi => ⟨?_, fun hd => ⟨_, _, fieldAt?_of_lt hi hd, rfl⟩⟩, b.wellFounded_isNestedIn⟩
  · rw [fieldAt?_of_lt hi hd, buildNestedField, ← c.ref_eq i hi, Nat.sub_right_comm]
    rfl
  · rintro ⟨field, nested, hf, hn⟩
    by_contra hd
    rcases Nat.eq_or_lt_of_not_lt hd with rfl | hd
    · rw [fieldAt?_depth hi] at hf
      cases hf
      cases hn
    · rw [fieldAt?_of_gt hi hd] at hf
      cases hf

/-- Categories with parents, which are categories: a chain that does not end and never leaves its
model. -/
def parents : RelationChain :=
  let category : ModelRef := ⟨"shop", "Category"⟩
  let parent : ModelField :=
    (ModelField.declare "parent" (.foreignKey "self" .cascade none) [.nullable]).attach category
  { length := ⊤
    model := fun _ => ⟨category.appLabel, category.objectName, "category", [parent]⟩
    name := fun _ => "parent"
    field := fun _ => parent
    relation := fun _ => ⟨some parent, category, false, false, false⟩
    resolve?_eq := fun _ _ => rfl
    forward?_eq := fun _ _ => rfl
    ref_eq := fun _ _ => rfl }

/-- At a depth of two a category has its parent in it, that one has its own parent, and then there
is a key. -/
theorem fieldAt?_boundedByDepth_parents :
    (∃ field, parents.fieldAt? .default 2 0 = some field ∧
      field.nested = some ⟨⟨"shop", "Category"⟩, 1⟩) ∧
    (∃ field, parents.fieldAt? .default 2 1 = some field ∧
      field.nested = some ⟨⟨"shop", "Category"⟩, 0⟩) ∧
    ∃ field, parents.fieldAt? .default 2 2 = some field ∧
      field.serializerClass = .primaryKeyRelated ∧ field.nested = none := by
  obtain ⟨hnested, hflat, -⟩ := fieldAt?_boundedByDepth parents .default 2
  have endless (i : ℕ) : i < parents.length := ENat.natCast_lt_top i
  refine ⟨⟨_, hnested 0 (endless 0) (by omega), rfl⟩,
    ⟨_, hnested 1 (endless 1) (by omega), rfl⟩, ?_⟩
  obtain ⟨field, hf, -, hc, hn⟩ := hflat (endless 2)
  exact ⟨field, hf, hc, hn⟩

end RelationChain

end FieldMap.FieldBuilder
