import FieldMap.Proofs.Building

/-!
# Read only by selection and by declaration

A selection may make a field read only, and a model may declare it not editable. For a field without
choices both come to the same serializer field (`buildFields_notEditable`): the first takes away the
arguments that the second never gives (`makeReadOnly_ofField`, `makeReadOnly_ofRelation`).
-/

namespace FieldMap

/-- An element that is looked for and changed where it stands is found changed. -/
theorem find?_modify_findIdx {α : Type} {p : α → Bool} {g : α → α} (hg : ∀ x, p (g x) = p x)
    (xs : List α) : (xs.modify (xs.findIdx p) g).find? p = (xs.find? p).map g := by
  induction xs with
  | nil => rfl
  | cons x xs ih =>
    rw [List.findIdx_cons]
    cases hx : p x with
    | true =>
      rw [cond_true, List.modify_zero_cons, List.find?_cons_of_pos ((hg x).trans hx),
        List.find?_cons_of_pos hx, Option.map_some]
    | false =>
      have hn : ¬p x = true := by
        rw [hx]
        decide
      rw [cond_false, List.modify_succ_cons, List.find?_cons_of_neg hn, ih,
        List.find?_cons_of_neg hn]

/-! ## Declaring a field not editable -/

/-- Whether a name selects the field, if it does not select an earlier one. -/
def ModelField.isSelectedBy (f : ModelField) (name : String) : Bool :=
  if name = "pk" then f.primaryKey else f.name == name

/-- The model in which the field that a name selects is declared not editable. -/
def Model.withNotEditable (m : Model) (name : String) : Model :=
  let place := m.fields.findIdx (·.isSelectedBy name)
  { m with fields := m.fields.modify place (·.apply .notEditable) }

theorem resolve?_eq_find? (m : Model) (name : String) :
    FieldBuilder.resolve? m name = m.fields.find? (·.isSelectedBy name) := by
  by_cases hn : name = "pk" <;>
    simp only [FieldBuilder.resolve?, ModelField.isSelectedBy, Model.primaryKey?, Model.field?, hn,
      if_true, if_false]

theorem resolve?_withNotEditable (m : Model) (name : String) :
    FieldBuilder.resolve? (m.withNotEditable name) name =
      (FieldBuilder.resolve? m name).map (·.apply .notEditable) := by
  rw [resolve?_eq_find?, resolve?_eq_find?]
  refine find?_modify_findIdx (g := (·.apply .notEditable)) (fun f => ?_) m.fields
  simp only [ModelField.isSelectedBy, ModelField.apply]

theorem Relation.forward?_notEditable (f : ModelField) :
    forward? (f.apply .notEditable) =
      (forward? f).map fun r => { r with field := some (f.apply .notEditable) } := by
  obtain ⟨_, type, _⟩ := f
  cases type <;> rfl

theorem ModelField.isFixed_notEditable (f : ModelField) :
    (f.apply .notEditable).isFixed = true := by
  show (_ || true) = true
  rw [Bool.or_true]

/-! ## Two ways to the same arguments -/

namespace Arguments

variable {name : String} {f : ModelField} {r : Relation} {c : SerializerClass}

/-- The arguments with another model field, if they have one. -/
def speakingOf (f : ModelField) (a : Arguments) : Arguments :=
  { a with modelField := a.modelField.map fun _ => f }

theorem speakingOf_fitted (a : Arguments) (c : SerializerClass) :
    (a.fitted c).speakingOf f = (a.speakingOf f).fitted c := by
  simp only [speakingOf, fitted]
  split <;> rfl

theorem makeReadOnly_fitted (a : Arguments) (c : SerializerClass) :
    (a.fitted c).makeReadOnly = a.makeReadOnly.fitted c := by
  rw [makeReadOnly_eq, makeReadOnly_eq]
  simp only [fitted, ite_self]

/-- All that speaks of written values is taken away from a field without choices. -/
theorem makeReadOnly_ofField (ho : f.flatChoices = []) :
    (ofField name f).makeReadOnly = { describing name f with readOnly := some true } := by
  rw [makeReadOnly_eq]
  cases hw : f.isFixed with
  | true =>
    rw [ofField_of_isFixed hw]
    rfl
  | false =>
    rw [ofField_of_noChoices hw ho]
    rfl

/-- A field that is not editable is never given what speaks of written values. -/
theorem speakingOf_makeReadOnly_ofField (ho : f.flatChoices = []) :
    ((ofField name f).fitted c).makeReadOnly.speakingOf (f.apply .notEditable) =
      (ofField name (f.apply .notEditable)).fitted c := by
  rw [makeReadOnly_fitted, makeReadOnly_ofField ho, speakingOf_fitted,
    ofField_of_isFixed f.isFixed_notEditable]
  rfl

/-- Nor is a relation. -/
theorem makeReadOnly_ofRelation (hf : r.field = some f) :
    (ofRelation name r).makeReadOnly =
      ofRelation name { r with field := some (f.apply .notEditable) } := by
  have hfixed : isFixedRelation { r with field := some (f.apply .notEditable) } = true := by
    show (_ || true) = true
    rw [Bool.or_true]
  rw [makeReadOnly_eq, ofRelation_of_isFixed hfixed]
  cases hw : isFixedRelation r with
  | true =>
    rw [ofRelation_of_isFixed hw, hf]
    rfl
  | false =>
    rw [ofRelation_of_field hw hf]
    rfl

end Arguments

namespace FieldBuilder

variable {b : FieldBuilder} {m : Model} {depth : Nat} {name : String} {f : ModelField}
  {field : SerializerField}

theorem buildNestedField_notEditable (r : Relation) (f : ModelField) (depth : Nat) :
    (buildNestedField r depth).arguments.makeReadOnly.speakingOf f =
      (buildNestedField { r with field := some f } depth).arguments := by
  rw [Arguments.makeReadOnly_eq]
  rfl

theorem buildRelationalField_notEditable {r : Relation} (hf : r.field = some f) :
    (b.buildRelationalField name r).arguments.makeReadOnly.speakingOf (f.apply .notEditable) =
      (b.buildRelationalField name
        { r with field := some (f.apply .notEditable) }).arguments := by
  rw [buildRelationalField, buildRelationalField, ← Arguments.makeReadOnly_ofRelation hf,
    Arguments.makeReadOnly_eq, Arguments.makeReadOnly_eq]
  simp only [Arguments.speakingOf, Arguments.modelField_ofRelation, Option.map_none]

/-- A field that is no relation, in the model that declares it not editable. -/
theorem builds_notEditable_of_findFor {c : SerializerClass} (hf : resolve? m name = some f)
    (ho : f.flatChoices = []) (hr : Relation.forward? f = none)
    (hc : b.mapping.findFor f = .ok c) :
    b.Builds (m.withNotEditable name) depth name
      ⟨c, ((Arguments.ofField name f).fitted c).makeReadOnly.speakingOf (f.apply .notEditable),
        none⟩ := by
  have hf' : resolve? (m.withNotEditable name) name = some (f.apply .notEditable) := by
    rw [resolve?_withNotEditable, hf, Option.map_some]
  have hr' : Relation.forward? (f.apply .notEditable) = none := by
    rw [Relation.forward?_notEditable, hr, Option.map_none]
  rw [Arguments.speakingOf_makeReadOnly_ofField ho,
    Arguments.ofField_of_isFixed f.isFixed_notEditable]
  -- The mapping sees only the type of a field, so `hc` also speaks of the field not editable.
  exact .fixed hf' hr' hc f.isFixed_notEditable

/-- A field made read only is the field of the same name in the model that declares it not
editable, but for the model field that it may speak of. -/
theorem Builds.notEditable (h : b.Builds m depth name field) (hf : resolve? m name = some f)
    (ho : f.flatChoices = []) :
    b.Builds (m.withNotEditable name) depth name { field with
      arguments := field.arguments.makeReadOnly.speakingOf (f.apply .notEditable) } := by
  have hf' : resolve? (m.withNotEditable name) name = some (f.apply .notEditable) := by
    rw [resolve?_withNotEditable, hf, Option.map_some]
  have hr' := Relation.forward?_notEditable f
  cases h with
  | @nested f₀ r h₀ hr hd =>
    cases hf.symm.trans h₀
    rw [hr] at hr'
    show Builds _ _ _ _ ⟨_, _, _⟩
    rw [buildNestedField_notEditable]
    exact .nested hf' hr' hd
  | @related f₀ r h₀ hr hd =>
    cases hf.symm.trans h₀
    rw [hr] at hr'
    show Builds _ _ _ _ ⟨_, _, _⟩
    rw [buildRelationalField_notEditable (Relation.field_of_forward? hr)]
    exact .related hf' hr' hd
  | @fixed f₀ c h₀ hr hc hw =>
    cases hf.symm.trans h₀
    rw [← Arguments.ofField_of_isFixed hw]
    exact builds_notEditable_of_findFor hf ho hr hc
  | choice h₀ hr hw hn =>
    cases hf.symm.trans h₀
    exact absurd ho hn
  | @bounded f₀ c h₀ hr hc hw ho =>
    cases hf.symm.trans h₀
    rw [← Arguments.ofField_of_noChoices hw ho]
    exact builds_notEditable_of_findFor hf ho hr hc
  | link h₀ hn =>
    rw [hf] at h₀
    cases h₀

/-- The only model field that the arguments may hold is the one that the name selects. -/
theorem Builds.modelField (h : b.Builds m depth name field) (hf : resolve? m name = some f) :
    field.arguments.modelField = none ∨ field.arguments.modelField = some f := by
  have fitted : ∀ {a : Arguments} {c : SerializerClass},
      a.modelField = none ∨ a.modelField = some f →
        (a.fitted c).modelField = none ∨ (a.fitted c).modelField = some f := by
    intro a c ha
    simp only [Arguments.fitted]
    split
    · exact ha
    · exact .inl rfl
  cases h with
  | nested h₀ hr hd => exact .inl rfl
  | related h₀ hr hd => exact .inl Arguments.modelField_ofRelation
  | fixed h₀ hr hc hw =>
    cases hf.symm.trans h₀
    exact fitted (.inr rfl)
  | choice h₀ hr hw hn =>
    cases hf.symm.trans h₀
    exact fitted (.inl rfl)
  | bounded h₀ hr hc hw ho =>
    cases hf.symm.trans h₀
    exact fitted (.inr rfl)
  | link h₀ hn => exact .inl rfl

/-- Two serializer fields are the same but for the model field that their arguments may hold, which
is `f` in the one and `g` in the other. -/
structure AgreeBut (f g : ModelField) (x y : SerializerField) : Prop where
  serializerClass : y.serializerClass = x.serializerClass
  nested : y.nested = x.nested
  arguments : y.arguments = { x.arguments with modelField := y.arguments.modelField }
  modelField : x.arguments.modelField = none ∧ y.arguments.modelField = none ∨
    x.arguments.modelField = some f ∧ y.arguments.modelField = some g

theorem agreeBut_speakingOf (g : ModelField)
    (hm : field.arguments.modelField = none ∨ field.arguments.modelField = some f) :
    AgreeBut f g field { field with arguments := field.arguments.speakingOf g } where
  serializerClass := rfl
  nested := rfl
  arguments := rfl
  modelField := by
    rcases hm with hn | hs
    · exact .inl ⟨hn, by rw [Arguments.speakingOf, hn, Option.map_none]⟩
    · exact .inr ⟨hs, by rw [Arguments.speakingOf, hs, Option.map_some]⟩

theorem Builds.agreeBut (h : b.Builds m depth name field) (hf : resolve? m name = some f)
    (g : ModelField) : AgreeBut f g { field with arguments := field.arguments.makeReadOnly }
      { field with arguments := field.arguments.makeReadOnly.speakingOf g } := by
  have hm : field.arguments.makeReadOnly.modelField = field.arguments.modelField := by
    rw [Arguments.makeReadOnly_eq]
  exact agreeBut_speakingOf g (hm ▸ h.modelField hf)

/-- A selection that makes a field without choices read only builds what a model builds that
declares the field not editable. -/
theorem buildFields_notEditable (b : FieldBuilder) (depth : Nat)
    (hf : resolve? m name = some f) (ho : f.flatChoices = []) :
    ∃ forced declared : SerializerField,
      b.buildFields m { fields := .only [name], depth, readOnly := [name] } =
        .ok [(name, forced)] ∧
      b.buildFields (m.withNotEditable name) { fields := .only [name], depth } =
        .ok [(name, declared)] ∧
      AgreeBut f (f.apply .notEditable) forced declared := by
  obtain ⟨field, hb⟩ := b.exists_builds depth hf
  have hforced : b.buildSelected m { fields := .only [name], depth, readOnly := [name] } name =
      .ok (name, { field with arguments := field.arguments.makeReadOnly }) := by
    refine buildSelected_eq_ok_iff.mpr ⟨field, hb, ?_⟩
    rw [if_pos (List.contains_iff_mem.mpr List.mem_cons_self)]
  have hdeclared : b.buildSelected (m.withNotEditable name) { fields := .only [name], depth } name =
      .ok (name, { field with
        arguments := field.arguments.makeReadOnly.speakingOf (f.apply .notEditable) }) :=
    buildSelected_eq_ok_iff.mpr ⟨_, hb.notEditable hf ho, rfl⟩
  exact ⟨_, _, buildFields_eq_ok_iff.mpr ⟨[name], rfl, .cons hforced .nil⟩,
    buildFields_eq_ok_iff.mpr ⟨[name], rfl, .cons hdeclared .nil⟩, hb.agreeBut hf _⟩

/-- A headline, given to a class that keeps the model field. -/
theorem buildFields_notEditable_headline : ∃ (f : ModelField) (forced declared : SerializerField),
    resolve? .article "headline" = some f ∧ f.flatChoices = [] ∧
    (default.withMapping .char .model).buildFields .article
      { fields := .only ["headline"], depth := 1, readOnly := ["headline"] } =
        .ok [("headline", forced)] ∧
    (default.withMapping .char .model).buildFields (Model.article.withNotEditable "headline")
      { fields := .only ["headline"], depth := 1 } = .ok [("headline", declared)] ∧
    AgreeBut f (f.apply .notEditable) forced declared := by
  obtain ⟨f, hf, ho⟩ : ∃ f, resolve? .article "headline" = some f ∧ f.flatChoices = [] :=
    ⟨_, rfl, rfl⟩
  obtain ⟨forced, declared, h⟩ :=
    buildFields_notEditable (default.withMapping .char .model) 1 hf ho
  exact ⟨f, forced, declared, hf, ho, h⟩

end FieldBuilder

end FieldMap
