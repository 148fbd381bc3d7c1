import FieldMap.Serializer.Builder
import Mathlib.Data.List.Forall2

/-!
# How fields are built

`FieldBuilder.Builds` lists the ways in which the serializer field of a name comes about, each with
the class and the arguments it has; `buildField_eq_ok_iff` says that there are no others. A builder
has a class for every model field (`exists_findFor`). The fields of a selection are those of its
names in order, some of them made read only (`buildFields_eq_ok_iff`), so that what holds of the
field of a name and survives being made read only holds of all of them (`forall_mem_buildFields`).
-/

namespace FieldMap

/-- A traversal that may fail succeeds with what every step yields. -/
theorem mapM_eq_ok_iff {α β ε : Type} {f : α → Except ε β} {xs : List α} {ys : List β} :
    xs.mapM f = .ok ys ↔ List.Forall₂ (fun x y => f x = .ok y) xs ys := by
  induction xs generalizing ys with
  | nil => simp [pure, Except.pure, eq_comm]
  | cons x xs ih =>
    rw [List.mapM_cons, List.forall₂_cons_left_iff]
    constructor
    · intro h
      cases hx : f x with
      | error e => rw [hx] at h; cases h
      | ok y =>
        cases hxs : xs.mapM f with
        | error e => rw [hx, hxs] at h; cases h
        | ok rest =>
          rw [hx, hxs] at h
          cases h
          exact ⟨y, rest, rfl, ih.mp hxs, rfl⟩
    · rintro ⟨y, rest, hx, hxs, rfl⟩
      rw [hx, ih.mpr hxs]
      rfl

/-! ## Arguments of fields and relations -/

/-- A relation that a field declares knows that field. -/
theorem Relation.field_of_forward? {f : ModelField} {r : Relation} (h : forward? f = some r) :
    r.field = some f := by
  unfold forward? at h
  split at h <;> cases h <;> rfl

namespace Arguments

variable {name : String} {f : ModelField} {r : Relation}

theorem ofField_of_isFixed (h : f.isFixed = true) :
    ofField name f = { describing name f with readOnly := some true } := by
  simp only [ofField, h, if_true]

theorem ofField_of_choices (h : f.isFixed = false) (hc : f.flatChoices ≠ []) :
    ofField name f = { (describing name f).withPresence f with choices := some f.flatChoices } := by
  simp only [ofField, h, Bool.false_eq_true, if_false]

theorem ofField_of_noChoices (h : f.isFixed = false) (hc : f.flatChoices = []) :
    ofField name f = ((describing name f).withPresence f).withBounds f := by
  simp only [ofField, h, hc, Bool.false_eq_true, if_false]

theorem ofRelation_of_isFixed (h : isFixedRelation r = true) :
    ofRelation name r = {
      viewName := some r.related.detailViewName
      many := onlyIf r.toMany true
      label := r.field.bind (·.labelFor name)
      helpText := r.field.bind fun f => nonEmpty (withoutSelectionHint f.helpText)
      readOnly := some true } := by
  simp only [ofRelation, h]
  rfl

theorem ofRelation_of_field (h : isFixedRelation r = false) (hf : r.field = some f) :
    ofRelation name r = {
      queryset := some r.related.defaultManager
      viewName := some r.related.detailViewName
      many := onlyIf r.toMany true
      label := f.labelFor name
      helpText := nonEmpty (withoutSelectionHint f.helpText)
      required := onlyIf (f.hasDefault || f.null) false
      allowNull := onlyIf f.null true
      validators := f.validatorsWithUnique f.allValidators } := by
  simp only [ofRelation, h, hf]
  rfl

theorem filter_true {α : Type} (x : Option α) : x.filter (fun _ => true) = x := by
  cases x <;> rfl

/-- What making arguments read only does to each of them. -/
theorem makeReadOnly_eq (a : Arguments) : a.makeReadOnly =
    { a with
      queryset := none, readOnly := some true, required := none, allowNull := none,
      allowBlank := none, maxLength := none, minLength := none, maxValue := none, minValue := none,
      validators := none } := by
  simp [makeReadOnly, filter, writingKeys, filter_true]

/-- The arguments that fields with choices have. -/
theorem filter_choiceKeys (a : Arguments) : a.filter (choiceKeys.contains ·) =
    { a with
      modelField := none, queryset := none, viewName := none, many := none, maxDigits := none,
      decimalPlaces := none, maxLength := none, minLength := none, maxValue := none,
      minValue := none } := by
  simp [filter, choiceKeys, filter_true]

theorem modelField_ofRelation : (ofRelation name r).modelField = none := by
  simp only [ofRelation]
  split <;> rfl

theorem label_ofRelation : (ofRelation name r).label = r.field.bind (·.labelFor name) := by
  simp only [ofRelation]
  split <;> rfl

end Arguments

namespace FieldBuilder

variable {b : FieldBuilder} {m : Model}

/-! ## Standard fields -/

/-- The mapping of a builder has a class for every model field. -/
theorem exists_findFor (b : FieldBuilder) (f : ModelField) : ∃ c, b.mapping.findFor f = .ok c := by
  have hs : ((ClassHierarchy.lineage f.fieldClass).findSome? b.mapping.get?).isSome = true :=
    List.findSome?_isSome_iff.mpr ⟨.field, FieldClass.field_mem_lineage _, b.coversField⟩
  obtain ⟨c, hc⟩ := Option.isSome_iff_exists.mp hs
  refine ⟨c, ?_⟩
  show b.mapping.find f.fieldClass = .ok c
  rw [ClassTable.find, hc]

section Standard

variable {name : String} {f : ModelField} {c : SerializerClass}

/-- A field that is never written is built without what speaks of written values. -/
theorem buildStandardField_of_isFixed (hc : b.mapping.findFor f = .ok c) (hw : f.isFixed = true) :
    b.buildStandardField name f =
      .ok ⟨c, ({ Arguments.describing name f with readOnly := some true } : Arguments).fitted c,
        none⟩ := by
  rw [buildStandardField, hc, Arguments.ofField_of_isFixed hw]
  rfl

/-- A field with choices is built as such, whatever its class. -/
theorem buildStandardField_of_choices (hw : f.isFixed = false) (ho : f.flatChoices ≠ []) :
    b.buildStandardField name f =
      .ok ⟨.choice, (({ (Arguments.describing name f).withPresence f with
        choices := some f.flatChoices } : Arguments).filter
          (Arguments.choiceKeys.contains ·)).fitted .choice, none⟩ := by
  obtain ⟨c, hc⟩ := b.exists_findFor f
  rw [buildStandardField, hc, Arguments.ofField_of_choices hw ho]
  rfl

/-- Any other field is built with bounds and validators. -/
theorem buildStandardField_of_noChoices (hc : b.mapping.findFor f = .ok c)
    (hw : f.isFixed = false) (ho : f.flatChoices = []) :
    b.buildStandardField name f =
      .ok ⟨c, (((Arguments.describing name f).withPresence f).withBounds f).fitted c, none⟩ := by
  rw [buildStandardField, hc, Arguments.ofField_of_noChoices hw ho]
  rfl

end Standard

/-! ## The field of a name -/

/-- The ways in which the serializer field of a name comes about. -/
inductive Builds (b : FieldBuilder) (m : Model) (depth : Nat) (name : String) :
    SerializerField → Prop
  /-- A relation that is followed. -/
  | nested {f : ModelField} {r : Relation} (hf : resolve? m name = some f)
      (hr : Relation.forward? f = some r) (hd : 0 < depth) :
      Builds b m depth name (buildNestedField r depth)
  /-- A relation by keys or links. -/
  | related {f : ModelField} {r : Relation} (hf : resolve? m name = some f)
      (hr : Relation.forward? f = some r) (hd : depth = 0) :
      Builds b m depth name (b.buildRelationalField name r)
  /-- A field that is never written. -/
  | fixed {f : ModelField} {c : SerializerClass} (hf : resolve? m name = some f)
      (hr : Relation.forward? f = none) (hc : b.mapping.findFor f = .ok c)
      (hw : f.isFixed = true) :
      Builds b m depth name
        ⟨c, ({ Arguments.describing name f with readOnly := some true } : Arguments).fitted c, none⟩
  /-- A field with choices. -/
  | choice {f : ModelField} (hf : resolve? m name = some f) (hr : Relation.forward? f = none)
      (hw : f.isFixed = false) (ho : f.flatChoices ≠ []) :
      Builds b m depth name
        ⟨.choice, (({ (Arguments.describing name f).withPresence f with
          choices := some f.flatChoices } : Arguments).filter
            (Arguments.choiceKeys.contains ·)).fitted .choice, none⟩
  /-- A field of which bounds and validators speak. -/
  | bounded {f : ModelField} {c : SerializerClass} (hf : resolve? m name = some f)
      (hr : Relation.forward? f = none) (hc : b.mapping.findFor f = .ok c)
      (hw : f.isFixed = false) (ho : f.flatChoices = []) :
      Builds b m depth name
        ⟨c, (((Arguments.describing name f).withPresence f).withBounds f).fitted c, none⟩
  /-- The link to the object itself. -/
  | link (hf : resolve? m name = none) (hn : name = b.urlFieldName) :
      Builds b m depth name (b.buildUrlField m.ref)

/-- A field that is no relation is built in one of three ways. -/
theorem builds_of_buildStandardField {depth : Nat} {name : String} {f : ModelField}
    {field : SerializerField} (hf : resolve? m name = some f) (hr : Relation.forward? f = none)
    (h : b.buildStandardField name f = .ok field) : b.Builds m depth name field := by
  obtain ⟨c, hc⟩ := b.exists_findFor f
  cases hw : f.isFixed with
  | true =>
    cases (buildStandardField_of_isFixed hc hw).symm.trans h
    exact .fixed hf hr hc hw
  | false =>
    by_cases ho : f.flatChoices = []
    · cases (buildStandardField_of_noChoices hc hw ho).symm.trans h
      exact .bounded hf hr hc hw ho
    · cases (buildStandardField_of_choices hw ho).symm.trans h
      exact .choice hf hr hw ho

/-- The field of a name is built in one of the ways listed. -/
theorem buildField_eq_ok_iff {depth : Nat} {name : String} {field : SerializerField} :
    b.buildField name m depth = .ok field ↔ b.Builds m depth name field := by
  constructor
  · intro h
    cases hf : resolve? m name with
    | none =>
      simp only [buildField, hf] at h
      split at h <;> [skip; cases h]
      rename_i hn
      cases h
      exact .link hf hn
    | some f =>
      cases hr : Relation.forward? f with
      | none =>
        simp only [buildField, hf, hr] at h
        exact builds_of_buildStandardField hf hr h
      | some r =>
        simp only [buildField, hf, hr] at h
        split at h <;> rename_i hd <;> cases h
        · exact .nested hf hr hd
        · exact .related hf hr (by omega)
  · rintro (⟨hf, hr, hd⟩ | ⟨hf, hr, hd⟩ | ⟨hf, hr, hc, hw⟩ | ⟨hf, hr, hw, ho⟩ |
      ⟨hf, hr, hc, hw, ho⟩ | ⟨hf, hn⟩)
    · simp only [buildField, hf, hr, hd, if_true]
    · simp only [buildField, hf, hr, hd, Nat.lt_irrefl, if_false]
    · simp only [buildField, hf, hr, buildStandardField_of_isFixed hc hw]
    · simp only [buildField, hf, hr, buildStandardField_of_choices hw ho]
    · simp only [buildField, hf, hr, buildStandardField_of_noChoices hc hw ho]
    · subst hn
      simp only [buildField, hf, if_true]

/-- A name that selects a model field has a serializer field. -/
theorem exists_builds (b : FieldBuilder) (depth : Nat) {name : String} {f : ModelField}
    (hf : resolve? m name = some f) : ∃ field, b.Builds m depth name field := by
  cases hr : Relation.forward? f with
  | some r =>
    rcases Nat.eq_zero_or_pos depth with hd | hd
    · exact ⟨_, .related hf hr hd⟩
    · exact ⟨_, .nested hf hr hd⟩
  | none =>
    obtain ⟨c, hc⟩ := b.exists_findFor f
    cases hw : f.isFixed with
    | true => exact ⟨_, .fixed hf hr hc hw⟩
    | false =>
      by_cases ho : f.flatChoices = []
      · exact ⟨_, .bounded hf hr hc hw ho⟩
      · exact ⟨_, .choice hf hr hw ho⟩

/-! ## The fields of a selection -/

/-- The entry of a selected name is its field, made read only if the selection says so. -/
theorem buildSelected_eq_ok_iff {s : Selection} {name : String} {entry : String × SerializerField} :
    b.buildSelected m s name = .ok entry ↔ ∃ field, b.Builds m s.depth name field ∧
      entry = (name, if s.readOnly.contains name
        then { field with arguments := field.arguments.makeReadOnly } else field) := by
  simp only [← buildField_eq_ok_iff]
  cases h : b.buildField name m s.depth with
  | error e =>
    rw [buildSelected, h]
    constructor
    · intro he
      cases he
    · rintro ⟨field, he, -⟩
      cases he
  | ok field =>
    rw [buildSelected, h]
    show (if s.readOnly.contains name = true
      then Except.ok (name, { field with arguments := field.arguments.makeReadOnly })
      else Except.ok (name, field)) = Except.ok entry ↔ _
    simp only [Except.ok.injEq, exists_eq_left', eq_comm (a := entry)]
    split <;> rw [Except.ok.injEq]

/-- A selection yields one entry for each of its names, in order. -/
theorem buildFields_eq_ok_iff {s : Selection} {built : List (String × SerializerField)} :
    b.buildFields m s = .ok built ↔ ∃ names, b.selectedNames m s.fields = .ok names ∧
      List.Forall₂ (fun name entry => b.buildSelected m s name = .ok entry) names built := by
  rw [buildFields]
  cases h : b.selectedNames m s.fields with
  | error e =>
    constructor
    · intro he
      cases he
    · rintro ⟨names, he, -⟩
      cases he
  | ok names =>
    simp only [Except.ok.injEq, exists_eq_left', ← mapM_eq_ok_iff]
    rfl

/-- Every field of a selection is the field of its name, made read only if the selection says so. -/
theorem exists_builds_of_mem_buildFields {s : Selection} {built : List (String × SerializerField)}
    {name : String} {field : SerializerField} (h : b.buildFields m s = .ok built)
    (hx : (name, field) ∈ built) : ∃ base, b.Builds m s.depth name base ∧
      field = if s.readOnly.contains name
        then { base with arguments := base.arguments.makeReadOnly } else base := by
  obtain ⟨names, -, hall⟩ := buildFields_eq_ok_iff.mp h
  -- The induction is on the pairing of names with entries; `h` speaks of all of them.
  clear h
  induction hall with
  | nil => exact absurd hx List.not_mem_nil
  | cons he _ ih =>
    rcases List.mem_cons.mp hx with rfl | hx
    · obtain ⟨base, hbase, he⟩ := buildSelected_eq_ok_iff.mp he
      obtain ⟨rfl, hf⟩ := Prod.mk.inj he
      exact ⟨base, hbase, hf⟩
    · exact ih hx

/-- What holds of the field of a name, and still holds when the field is made read only, holds of
every field of a selection. -/
theorem forall_mem_buildFields {s : Selection} {built : List (String × SerializerField)}
    {P : String → SerializerField → Prop} (h : b.buildFields m s = .ok built)
    (hb : ∀ name field, b.Builds m s.depth name field → P name field)
    (hr : ∀ name field, P name field →
      P name { field with arguments := field.arguments.makeReadOnly }) :
    ∀ name field, (name, field) ∈ built → P name field := by
  intro name field hx
  obtain ⟨base, hbase, rfl⟩ := exists_builds_of_mem_buildFields h hx
  split
  · exact hr _ _ (hb _ _ hbase)
  · exact hb _ _ hbase

end FieldBuilder

/-- Articles, which have a field for each way of building one. The examples of the theory are about
them. -/
def Model.article : Model :=
  .ofFields "news" "Article" [
    .declare "id" .bigAuto [.primaryKey],
    .declare "status" .char
      [.blank, .choices [(.string "d", "Draft"), (.string "p", "Published")]],
    .declare "headline" .char
      [.maxLength 120, .unique, .validator (.maxLength 200), .validator (.minLength 5),
        .validator (.minLength 3), .validator (.email "Mail.")],
    .declare "reporter" (.foreignKey "people.Reporter" .cascade none)
      [.nullable, .verboseName "the author"],
    .declare "topics" (.manyToMany "Topic" (some "news.Tagging") none) []]

end FieldMap
