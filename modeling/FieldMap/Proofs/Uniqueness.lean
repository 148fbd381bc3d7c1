import FieldMap.Proofs.Building

/-!
# Where uniqueness is asked for

A serializer field asks for a value that no other object of the model has wherever it can: if the
model field is unique, if the serializer field may be written, and if the model field is a relation
or has no choices (`asksForUnique_iff`). What one field is built with is said by `Builds.lastUnique`
and `Builds.of_asksForUnique`, and what makes a field read only by `isReadOnly_of_mem_buildFields`.
The constraint is the last of the validators (`Arguments.LastUnique`), and other objects are looked
for in the model that the field belongs to, also where the field stands for a relation to another
model.
-/

namespace FieldMap

/-- Every field of the model is attached to it. -/
def Model.IsAttached (m : Model) : Prop :=
  ∀ f ∈ m.fields, f.model = some m.ref

theorem Model.isAttached_ofFields (appLabel objectName : String) (fields : List ModelField) :
    (Model.ofFields appLabel objectName fields).IsAttached := by
  intro f hf
  obtain ⟨g, -, rfl⟩ := List.mem_map.mp hf
  rfl

namespace Arguments

/-- Some validator is a constraint on uniqueness. -/
def AsksForUnique (a : Arguments) : Prop :=
  ∃ u, FieldValidator.unique u ∈ a.validators.getD []

/-- The last validator, and no other one, is the constraint that no other object of a model has the
same value. -/
def LastUnique (a : Arguments) (m : ModelRef) : Prop :=
  ∃ vs : List Validator,
    a.validators =
      some (vs.map .value ++ [.unique { queryset := m.defaultManager, lookup := .exact }])

theorem LastUnique.asksForUnique {a : Arguments} {m : ModelRef} (h : a.LastUnique m) :
    a.AsksForUnique := by
  obtain ⟨vs, hv⟩ := h
  refine ⟨{ queryset := m.defaultManager, lookup := .exact }, ?_⟩
  rw [hv]
  exact List.mem_append_right _ List.mem_cons_self

/-- Other objects are looked for in that model. -/
theorem LastUnique.model_queryset {a : Arguments} {m : ModelRef} (h : a.LastUnique m)
    {u : UniqueValidator} (hu : FieldValidator.unique u ∈ a.validators.getD []) :
    u.queryset.model = m := by
  obtain ⟨vs, hv⟩ := h
  rw [hv] at hu
  rcases List.mem_append.mp hu with hu | hu
  · obtain ⟨v, -, hu⟩ := List.mem_map.mp hu
    cases hu
  · cases List.mem_singleton.mp hu
    rfl

theorem not_asksForUnique {a : Arguments} (h : a.validators = none) : ¬a.AsksForUnique := by
  rintro ⟨u, hu⟩
  rw [h] at hu
  cases hu

end Arguments

namespace ModelField

variable {f : ModelField}

theorem lastUnique_validatorsWithUnique {a : Arguments} {m : ModelRef} {vs : List Validator}
    (hu : f.unique = true) (hm : f.model = some m)
    (ha : a.validators = f.validatorsWithUnique vs) : a.LastUnique m := by
  refine ⟨vs, ?_⟩
  have hv : f.uniqueValidator? = some { queryset := m.defaultManager } := by
    rw [uniqueValidator?, if_pos hu, hm]
    rfl
  rw [ha, validatorsWithUnique, hv]
  split
  · rename_i h
    exact absurd h (List.append_ne_nil_of_right_ne_nil _ (List.cons_ne_nil _ _))
  · rfl

theorem unique_of_mem_validatorsWithUnique {u : UniqueValidator} {vs : List Validator}
    (h : FieldValidator.unique u ∈ (f.validatorsWithUnique vs).getD []) : f.unique = true := by
  have hall : FieldValidator.unique u ∈
      vs.map .value ++ f.uniqueValidator?.toList.map .unique := by
    rw [validatorsWithUnique] at h
    split at h
    · cases h
    · exact h
  rcases List.mem_append.mp hall with hv | hv
  · obtain ⟨v, -, hv⟩ := List.mem_map.mp hv
    cases hv
  · by_contra hu
    rw [uniqueValidator?, if_neg hu] at hv
    cases hv

/-- Whether nothing is ever written to the field: it sets itself, is not editable, or is a relation
through a model of its own. -/
def isNeverWritten (f : ModelField) : Bool :=
  f.isFixed || (Relation.forward? f).any (·.hasThroughModel)

theorem isFixedRelation_of_forward? {r : Relation} (hr : Relation.forward? f = some r) :
    Arguments.isFixedRelation r = f.isNeverWritten := by
  have hauto : f.isInstance .auto = false := by
    unfold Relation.forward? at hr
    unfold isInstance fieldClass
    cases ht : f.type <;> simp only [ht] at hr <;> first | rfl | cases hr
  rw [Arguments.isFixedRelation, Relation.field_of_forward? hr, isNeverWritten, isFixed, hauto, hr,
    Bool.or_comm]
  rfl

theorem isNeverWritten_of_forward?_eq_none (hr : Relation.forward? f = none) :
    f.isNeverWritten = f.isFixed := by
  rw [isNeverWritten, hr]
  exact Bool.or_false _

end ModelField

namespace FieldBuilder

variable {b : FieldBuilder} {m : Model} {depth : Nat} {name : String} {f : ModelField}
  {field : SerializerField}

theorem mem_of_resolve? (h : resolve? m name = some f) : f ∈ m.fields := by
  rw [resolve?] at h
  split at h
  · exact List.mem_of_find?_eq_some h
  · exact List.mem_of_find?_eq_some h

/-! ## The field of a name -/

/-- A field that is not nested is read only if nothing is ever written to its model field. -/
theorem Builds.isReadOnly (h : b.Builds m depth name field) (hf : resolve? m name = some f)
    (hn : field.nested = none) : field.arguments.isReadOnly = f.isNeverWritten := by
  cases h with
  | nested h₀ hr hd => cases hn
  | @related f₀ r h₀ hr hd =>
    cases hf.symm.trans h₀
    rw [← ModelField.isFixedRelation_of_forward? hr]
    cases hw : Arguments.isFixedRelation r with
    | true =>
      rw [buildRelationalField, Arguments.ofRelation_of_isFixed hw]
      rfl
    | false =>
      rw [buildRelationalField, Arguments.ofRelation_of_field hw (Relation.field_of_forward? hr)]
      rfl
  | fixed h₀ hr hc hw =>
    cases hf.symm.trans h₀
    rw [ModelField.isNeverWritten_of_forward?_eq_none hr, hw]
    rfl
  | choice h₀ hr hw ho =>
    cases hf.symm.trans h₀
    rw [ModelField.isNeverWritten_of_forward?_eq_none hr, hw]
    rfl
  | bounded h₀ hr hc hw ho =>
    cases hf.symm.trans h₀
    rw [ModelField.isNeverWritten_of_forward?_eq_none hr, hw]
    rfl
  | link h₀ hn =>
    rw [hf] at h₀
    cases h₀

/-- The field of a name asks for uniqueness if its model field is unique, may be written, and is a
relation or without choices. -/
theorem Builds.lastUnique (h : b.Builds m depth name field) (hm : m.IsAttached)
    (hf : resolve? m name = some f) (hu : f.unique = true)
    (hw : field.arguments.isReadOnly = false) (ho : f.isRelation = true ∨ f.flatChoices = []) :
    field.arguments.LastUnique m.ref := by
  have hm := hm f (mem_of_resolve? hf)
  cases h with
  | nested h₀ hr hd => cases hw
  | @related f₀ r h₀ hr hd =>
    cases hf.symm.trans h₀
    have hnone := (Builds.related (b := b) h₀ hr hd).isReadOnly hf rfl
    rw [hw, ← ModelField.isFixedRelation_of_forward? hr] at hnone
    have ha : (b.buildRelationalField name r).arguments.validators =
        f.validatorsWithUnique f.allValidators := by
      rw [buildRelationalField,
        Arguments.ofRelation_of_field hnone.symm (Relation.field_of_forward? hr)]
    exact ModelField.lastUnique_validatorsWithUnique hu hm ha
  | fixed h₀ hr hc hfixed => cases hw
  | choice h₀ hr hfixed hn =>
    cases hf.symm.trans h₀
    rw [← Relation.isSome_forward?, hr] at ho
    exact absurd (ho.resolve_left Bool.false_ne_true) hn
  | bounded h₀ hr hc hfixed hn =>
    cases hf.symm.trans h₀
    exact ModelField.lastUnique_validatorsWithUnique hu hm rfl
  | link h₀ hn =>
    rw [hf] at h₀
    cases h₀

/-- Nothing else makes it ask for uniqueness. -/
theorem Builds.of_asksForUnique (h : b.Builds m depth name field)
    (hf : resolve? m name = some f) (ha : field.arguments.AsksForUnique) :
    f.unique = true ∧ field.arguments.isReadOnly = false ∧ field.nested = none ∧
      (f.isRelation = true ∨ f.flatChoices = []) := by
  cases h with
  | nested h₀ hr hd => exact absurd ha (Arguments.not_asksForUnique rfl)
  | @related f₀ r h₀ hr hd =>
    cases hf.symm.trans h₀
    have hrel : f.isRelation = true := by
      rw [← Relation.isSome_forward?, hr]
      rfl
    cases hw : Arguments.isFixedRelation r with
    | true =>
      rw [buildRelationalField, Arguments.ofRelation_of_isFixed hw] at ha
      exact absurd ha (Arguments.not_asksForUnique rfl)
    | false =>
      rw [buildRelationalField,
        Arguments.ofRelation_of_field hw (Relation.field_of_forward? hr)] at ha ⊢
      obtain ⟨u, hu⟩ := ha
      exact ⟨ModelField.unique_of_mem_validatorsWithUnique hu, rfl, rfl, .inl hrel⟩
  | fixed h₀ hr hc hw => exact absurd ha (Arguments.not_asksForUnique rfl)
  | choice h₀ hr hw ho => exact absurd ha (Arguments.not_asksForUnique rfl)
  | bounded h₀ hr hc hw ho =>
    cases hf.symm.trans h₀
    obtain ⟨u, hu⟩ := ha
    exact ⟨ModelField.unique_of_mem_validatorsWithUnique hu, rfl, rfl, .inr ho⟩
  | link h₀ hn =>
    rw [hf] at h₀
    cases h₀

/-- Objects to choose from are those of the model that a relation leads to. -/
theorem Builds.queryset (h : b.Builds m depth name field) (hf : resolve? m name = some f)
    {manager : ManagerRef} (hq : field.arguments.queryset = some manager) :
    ∃ r, Relation.forward? f = some r ∧ manager = r.related.defaultManager := by
  cases h with
  | nested h₀ hr hd => cases hq
  | @related f₀ r h₀ hr hd =>
    cases hf.symm.trans h₀
    refine ⟨r, hr, ?_⟩
    cases hw : Arguments.isFixedRelation r with
    | true =>
      rw [buildRelationalField, Arguments.ofRelation_of_isFixed hw] at hq
      cases hq
    | false =>
      rw [buildRelationalField,
        Arguments.ofRelation_of_field hw (Relation.field_of_forward? hr)] at hq
      exact (Option.some.inj hq).symm
  | fixed h₀ hr hc hw => cases hq
  | choice h₀ hr hw ho => cases hq
  | bounded h₀ hr hc hw ho => cases hq
  | link h₀ hn => cases hq

/-! ## The fields of a selection -/

/-- What a selection does to the field of a name: nothing, or it makes it read only. -/
theorem isReadOnly_of_mem_buildFields {s : Selection} {built : List (String × SerializerField)}
    (h : b.buildFields m s = .ok built) (hx : (name, field) ∈ built)
    (hf : resolve? m name = some f) (hn : field.nested = none) :
    field.arguments.isReadOnly = (f.isNeverWritten || s.readOnly.contains name) := by
  obtain ⟨base, hb, rfl⟩ := exists_builds_of_mem_buildFields h hx
  cases hs : s.readOnly.contains name with
  | true =>
    rw [if_pos rfl, Arguments.makeReadOnly_eq, Bool.or_true]
    rfl
  | false =>
    rw [hs, if_neg Bool.false_ne_true] at hn
    rw [if_neg Bool.false_ne_true, Bool.or_false]
    exact hb.isReadOnly hf hn

/-- What makes a field of a selection read only is its model field or the selection. -/
theorem isReadOnly_iff_of_mem_buildFields {s : Selection} {built : List (String × SerializerField)}
    (h : b.buildFields m s = .ok built) (hx : (name, field) ∈ built)
    (hf : resolve? m name = some f) (hn : field.nested = none) :
    field.arguments.isReadOnly = true ↔ f.isInstance .auto = true ∨ f.editable = false ∨
      (∃ r, Relation.forward? f = some r ∧ r.hasThroughModel = true) ∨ name ∈ s.readOnly := by
  rw [isReadOnly_of_mem_buildFields h hx hf hn, ModelField.isNeverWritten, ModelField.isFixed,
    Bool.or_eq_true, Bool.or_eq_true, Bool.or_eq_true, Bool.not_eq_true', Option.any_eq_true,
    List.contains_iff_mem, or_assoc, or_assoc]

/-- A field of a selection asks for uniqueness as the field that its name is built to, unless the
selection makes it read only. -/
theorem lastUnique_of_mem_buildFields {s : Selection} {built : List (String × SerializerField)}
    (hm : m.IsAttached) (h : b.buildFields m s = .ok built) (hx : (name, field) ∈ built)
    (hf : resolve? m name = some f) :
    (field.arguments.AsksForUnique ↔ f.unique = true ∧ field.arguments.isReadOnly = false ∧
      field.nested = none ∧ (f.isRelation = true ∨ f.flatChoices = [])) ∧
    (field.arguments.AsksForUnique → field.arguments.LastUnique m.ref) ∧
    ∀ manager, field.arguments.queryset = some manager →
      ∃ r, Relation.forward? f = some r ∧ manager = r.related.defaultManager := by
  obtain ⟨base, hb, hfield⟩ := exists_builds_of_mem_buildFields h hx
  cases hs : s.readOnly.contains name with
  | true =>
    -- Being made read only takes away the validators and the objects to choose from.
    rw [hs, if_pos rfl, Arguments.makeReadOnly_eq] at hfield
    have hv : ¬field.arguments.AsksForUnique := Arguments.not_asksForUnique (by rw [hfield])
    have hr : field.arguments.isReadOnly = true := by
      rw [hfield]
      rfl
    have hq : field.arguments.queryset = none := by rw [hfield]
    refine ⟨⟨fun ha => absurd ha hv, fun hw => ?_⟩, fun ha => absurd ha hv, fun _ hm => ?_⟩
    · rw [hr] at hw
      cases hw.2.1
    · rw [hq] at hm
      cases hm
  | false =>
    rw [hs, if_neg Bool.false_ne_true] at hfield
    subst hfield
    refine ⟨⟨hb.of_asksForUnique hf, ?_⟩, fun ha => ?_, fun _ => hb.queryset hf⟩
    · rintro ⟨hu, hw, -, ho⟩
      exact (hb.lastUnique hm hf hu hw ho).asksForUnique
    · obtain ⟨hu, hw, -, ho⟩ := hb.of_asksForUnique hf ha
      exact hb.lastUnique hm hf hu hw ho

/-- A field of a selection asks for uniqueness exactly if its model field is unique, it may be
written and is not nested, and the model field is a relation or without choices. What makes it read
only is its model field or the selection. It then asks once and last, and for another object of the
model itself, while objects to choose from are those of the model that a relation leads to. So the
model that the constraint looks in is the model itself, whatever a relation leads to. -/
theorem asksForUnique_iff {s : Selection} {built : List (String × SerializerField)}
    (hm : m.IsAttached) (h : b.buildFields m s = .ok built) (hx : (name, field) ∈ built)
    (hf : resolve? m name = some f) :
    (field.arguments.AsksForUnique ↔ f.unique = true ∧ field.arguments.isReadOnly = false ∧
      field.nested = none ∧ (f.isRelation = true ∨ f.flatChoices = [])) ∧
    (field.nested = none → (field.arguments.isReadOnly = true ↔ f.isInstance .auto = true ∨
      f.editable = false ∨ (∃ r, Relation.forward? f = some r ∧ r.hasThroughModel = true) ∨
      name ∈ s.readOnly)) ∧
    (field.arguments.AsksForUnique → field.arguments.LastUnique m.ref) ∧
    (∀ u, FieldValidator.unique u ∈ field.arguments.validators.getD [] →
      u.queryset.model = m.ref) ∧
    ∀ manager, field.arguments.queryset = some manager →
      ∃ r, Relation.forward? f = some r ∧ manager = r.related.defaultManager ∧
        manager.model = r.related := by
  obtain ⟨hiff, hlast, hqueryset⟩ := lastUnique_of_mem_buildFields hm h hx hf
  refine ⟨hiff, isReadOnly_iff_of_mem_buildFields h hx hf, hlast,
    fun u hu => (hlast ⟨u, hu⟩).model_queryset hu, fun manager hq => ?_⟩
  obtain ⟨r, hr, rfl⟩ := hqueryset manager hq
  exact ⟨r, hr, rfl, rfl⟩

/-- A relation of which each object is told once asks for uniqueness among the profiles, while the
accounts are what there is to choose from. -/
theorem lastUnique_profile_account : ∃ (built : List (String × SerializerField))
    (field : SerializerField),
    FieldBuilder.hyperlinked.buildFields (.ofFields "people" "Profile"
      [.declare "account" (.oneToOne "auth.Account" .cascade none) [.unique, .choices
        [(.string "a", "A")]]]) { fields := .allBut ["url"] } = .ok built ∧
    ("account", field) ∈ built ∧ field.arguments.LastUnique ⟨"people", "Profile"⟩ ∧
    field.arguments.queryset = some (ModelRef.defaultManager ⟨"auth", "Account"⟩) := by
  refine ⟨_, _, rfl, .head _, ?_, rfl⟩
  have h := asksForUnique_iff (b := .hyperlinked) (s := { fields := .allBut ["url"] })
    (Model.isAttached_ofFields "people" "Profile"
      [.declare "account" (.oneToOne "auth.Account" .cascade none) [.unique, .choices
        [(.string "a", "A")]]]) rfl (.head _) rfl
  exact h.2.2.1 (h.1.mpr ⟨rfl, rfl, rfl, .inl rfl⟩)

end FieldBuilder

end FieldMap
