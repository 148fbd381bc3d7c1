import FieldMap.Proofs.DefaultNames

/-!
# The alias of the primary key

The name `pk` selects the primary key of a model by its flag, while its own name selects it among
all names. A name matters no further than that for what is built, but for the label: two names give
a field (`Arguments.sameButLabel_ofField`) or a relation (`Arguments.sameButLabel_ofRelation`) the
same arguments otherwise. So any two names that select one field build the same
(`FieldBuilder.exists_sameButLabel`), and the alias and the name of the primary key are such names
(`FieldBuilder.buildField_pk_sameButLabel`).
-/

namespace FieldMap

/-! ## The same but for the label -/

/-- The arguments are the same but for the label. -/
def Arguments.SameButLabel (a a' : Arguments) : Prop :=
  ∃ label, a' = { a with label }

/-- The fields are of one class, hold the same serializer, if any, and have the same arguments but
for the label. -/
structure SerializerField.SameButLabel (x y : SerializerField) : Prop where
  serializerClass : x.serializerClass = y.serializerClass
  nested : x.nested = y.nested
  arguments : x.arguments.SameButLabel y.arguments

namespace Arguments

variable {a a' : Arguments}

theorem SameButLabel.fitted (h : a.SameButLabel a') (c : SerializerClass) :
    (a.fitted c).SameButLabel (a'.fitted c) := by
  obtain ⟨label, rfl⟩ := h
  exact ⟨label, rfl⟩

theorem SameButLabel.filter (h : a.SameButLabel a') (wanted : Key → Bool) :
    (a.filter wanted).SameButLabel (a'.filter wanted) := by
  obtain ⟨label, rfl⟩ := h
  exact ⟨label.filter fun _ => wanted .label, rfl⟩

theorem sameButLabel_ofField (f : ModelField) (name name' : String) :
    (ofField name f).SameButLabel (ofField name' f) := by
  refine ⟨f.labelFor name', ?_⟩
  cases hw : f.isFixed with
  | true => rw [ofField_of_isFixed hw, ofField_of_isFixed hw]; rfl
  | false =>
    by_cases ho : f.flatChoices = []
    · rw [ofField_of_noChoices hw ho, ofField_of_noChoices hw ho]; rfl
    · rw [ofField_of_choices hw ho, ofField_of_choices hw ho]; rfl

theorem sameButLabel_ofRelation (r : Relation) (name name' : String) :
    (ofRelation name r).SameButLabel (ofRelation name' r) := by
  refine ⟨r.field.bind (·.labelFor name'), ?_⟩
  simp only [ofRelation]
  split <;> rfl

end Arguments

namespace FieldBuilder

variable {b : FieldBuilder} {m : Model} {f : ModelField} {name name' : String} {depth : ℕ}

theorem sameButLabel_buildRelationalField (b : FieldBuilder) (r : Relation)
    (name name' : String) :
    (b.buildRelationalField name r).SameButLabel (b.buildRelationalField name' r) where
  serializerClass := rfl
  nested := rfl
  arguments := by
    obtain ⟨label, h⟩ := Arguments.sameButLabel_ofRelation r name name'
    refine ⟨label, ?_⟩
    rw [buildRelationalField, buildRelationalField, h]

/-- Names that select one field build the same but for the label. -/
theorem Builds.exists_sameButLabel {x : SerializerField} (h : b.Builds m depth name x)
    (hf : resolve? m name = some f) (hf' : resolve? m name' = some f) :
    ∃ y, b.Builds m depth name' y ∧ x.SameButLabel y := by
  cases h with
  | nested h₀ hr hd =>
    cases hf.symm.trans h₀
    exact ⟨_, .nested hf' hr hd, rfl, rfl, none, rfl⟩
  | @related _ r h₀ hr hd =>
    cases hf.symm.trans h₀
    exact ⟨_, .related hf' hr hd, b.sameButLabel_buildRelationalField r name name'⟩
  | fixed h₀ hr hc hw =>
    cases hf.symm.trans h₀
    refine ⟨_, .fixed hf' hr hc hw, rfl, rfl, ?_⟩
    rw [← Arguments.ofField_of_isFixed hw, ← Arguments.ofField_of_isFixed hw]
    exact (Arguments.sameButLabel_ofField f name name').fitted _
  | choice h₀ hr hw ho =>
    cases hf.symm.trans h₀
    refine ⟨_, .choice hf' hr hw ho, rfl, rfl, ?_⟩
    rw [← Arguments.ofField_of_choices hw ho, ← Arguments.ofField_of_choices hw ho]
    exact ((Arguments.sameButLabel_ofField f name name').filter _).fitted _
  | bounded h₀ hr hc hw ho =>
    cases hf.symm.trans h₀
    refine ⟨_, .bounded hf' hr hc hw ho, rfl, rfl, ?_⟩
    rw [← Arguments.ofField_of_noChoices hw ho, ← Arguments.ofField_of_noChoices hw ho]
    exact (Arguments.sameButLabel_ofField f name name').fitted _
  | link h₀ hn =>
    rw [hf] at h₀
    cases h₀

theorem resolve?_pk (h : m.IsFirstKey f) : resolve? m "pk" = some f := by
  rw [resolve?, if_pos rfl]
  exact Model.primaryKey?_eq_some_iff.mpr h

/-- Where names differ, the primary key is found by its own name too. -/
theorem resolve?_name_of_isFirstKey (hd : m.HasDistinctNames) (h : m.IsFirstKey f) :
    resolve? m f.name = some f := by
  by_cases hn : f.name = "pk"
  · rw [hn, resolve?_pk h]
  · rw [resolve?, if_neg hn]
    exact Model.field?_name hd h.mem

/-- The alias builds what the name of the primary key builds, but for the label, at every depth.
Two names of a field or a relation make no difference to its arguments but for the label. -/
theorem buildField_pk_sameButLabel :
    (∀ (b : FieldBuilder) (m : Model) (f : ModelField) (depth : ℕ), m.HasDistinctNames →
      m.IsFirstKey f → ∃ byName byAlias, b.buildField f.name m depth = .ok byName ∧
        b.buildField "pk" m depth = .ok byAlias ∧ byName.SameButLabel byAlias) ∧
    (∀ (f : ModelField) (name name' : String),
      (Arguments.ofField name f).SameButLabel (Arguments.ofField name' f)) ∧
    ∀ (r : Relation) (name name' : String),
      (Arguments.ofRelation name r).SameButLabel (Arguments.ofRelation name' r) := by
  refine ⟨fun b m f depth hd h => ?_, Arguments.sameButLabel_ofField,
    Arguments.sameButLabel_ofRelation⟩
  have hname := resolve?_name_of_isFirstKey hd h
  obtain ⟨byName, hbyName⟩ := b.exists_builds depth hname
  obtain ⟨byAlias, hbyAlias, hsame⟩ := hbyName.exists_sameButLabel hname (resolve?_pk h)
  exact ⟨byName, byAlias, buildField_eq_ok_iff.mpr hbyName, buildField_eq_ok_iff.mpr hbyAlias,
    hsame⟩

end FieldBuilder

/-- Profiles, of which each is told by its account. -/
def Model.profile : Model :=
  .ofFields "people" "Profile" [
    .declare "motto" .text [.blank],
    .declare "account" (.oneToOne "auth.Account" .cascade none) [.primaryKey]]

namespace FieldBuilder

/-- The account of a profile as a link, which shows the same label under both names because it is
given one under the alias. -/
theorem buildField_pk_sameButLabel_profile : Model.profile.HasDistinctNames ∧
    ∃ f byName byAlias, Model.profile.IsFirstKey f ∧ f.name = "account" ∧
      FieldBuilder.hyperlinked.buildField "account" .profile 0 = .ok byName ∧
      FieldBuilder.hyperlinked.buildField "pk" .profile 0 = .ok byAlias ∧
      byName.SameButLabel byAlias ∧
      byName.arguments.label = none ∧ byAlias.arguments.label = some "Account" := by
  have hd : Model.profile.HasDistinctNames := by
    unfold Model.HasDistinctNames
    decide
  obtain ⟨f, hf, hn⟩ : ∃ f, Model.profile.IsFirstKey f ∧ f.name = "account" :=
    ⟨_, Model.primaryKey?_eq_some_iff.mp rfl, rfl⟩
  obtain ⟨byName, byAlias, hname, halias, hsame⟩ :=
    buildField_pk_sameButLabel.1 .hyperlinked .profile f 0 hd hf
  rw [hn] at hname
  refine ⟨hd, f, byName, byAlias, hf, hn, hname, halias, hsame, ?_, ?_⟩
  · cases hname
    rfl
  · cases halias
    rfl

end FieldBuilder

end FieldMap
