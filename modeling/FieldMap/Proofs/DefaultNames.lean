import FieldMap.Proofs.Building
import Mathlib.Data.List.Nodup

/-!
# Names that are selected by default

The default names of a model cover it: first what tells an object from the others
(`FieldBuilder.Identity`), then every field that is no primary key, those that are no relations
before those that are (`FieldBuilder.DefaultParts`). So with one primary key they are the names of
all fields in another order (`perm_of_countP`). That a field is a relation is told by its class when
names are collected and by its type when fields are built; both tell the same
(`buildField_eq_standard_iff`). A field under the name of the link to the object is named twice, and
is then built in place of the link (`buildField_eq_link_iff`).
-/

namespace FieldMap

namespace Model

variable {m : Model} {f : ModelField}

/-- No two fields of the model have one name. -/
def HasDistinctNames (m : Model) : Prop :=
  (m.fields.map ModelField.name).Nodup

/-- The field is a primary key, and none is declared before it. -/
def IsFirstKey (m : Model) (f : ModelField) : Prop :=
  ∃ before after, m.fields = before ++ f :: after ∧ f.primaryKey = true ∧
    ∀ g ∈ before, g.primaryKey = false

theorem primaryKey?_eq_some_iff : m.primaryKey? = some f ↔ m.IsFirstKey f := by
  rw [primaryKey?, List.find?_eq_some_iff_append]
  constructor
  · rintro ⟨hk, before, after, he, hb⟩
    exact ⟨before, after, he, hk, fun g hg => (Bool.not_eq_true' _).mp (hb g hg)⟩
  · rintro ⟨before, after, he, hk, hb⟩
    exact ⟨hk, before, after, he, fun g hg => (Bool.not_eq_true' _).mpr (hb g hg)⟩

theorem IsFirstKey.mem (h : m.IsFirstKey f) : f ∈ m.fields :=
  List.mem_of_find?_eq_some (primaryKey?_eq_some_iff.mpr h)

theorem primaryKey?_eq_none_iff : m.primaryKey? = none ↔ ∀ f ∈ m.fields, f.primaryKey = false := by
  simp only [primaryKey?, List.find?_eq_none, Bool.not_eq_true]

theorem field?_eq_none_iff {name : String} :
    m.field? name = none ↔ ∀ f ∈ m.fields, f.name ≠ name := by
  simp only [field?, List.find?_eq_none, beq_iff_eq, ne_eq]

/-- Where names differ, each finds its own field. -/
theorem field?_name (hd : m.HasDistinctNames) (hf : f ∈ m.fields) : m.field? f.name = some f := by
  obtain ⟨g, hg⟩ : ∃ g, m.field? f.name = some g := by
    by_contra hn
    have hnone := Option.eq_none_iff_forall_ne_some.mpr fun g hg => hn ⟨g, hg⟩
    exact field?_eq_none_iff.mp hnone f hf rfl
  have hname : g.name = f.name := by simpa using List.find?_some hg
  rw [hg, List.inj_on_of_nodup_map hd (List.mem_of_find?_eq_some hg) hf hname]

/-- The fields that are no primary keys. -/
def others (m : Model) : List ModelField :=
  m.fields.filter (!·.primaryKey)

/-- The fields that are no primary keys, those that are no relations first. -/
def orderedOthers (m : Model) : List ModelField :=
  m.others.filter (!·.isRelation) ++ m.others.filter (·.isRelation)

theorem perm_orderedOthers (m : Model) : m.orderedOthers.Perm m.others :=
  List.perm_append_comm.trans (List.filter_append_perm ModelField.isRelation m.others)

theorem mem_orderedOthers : f ∈ m.orderedOthers ↔ f ∈ m.fields ∧ f.primaryKey = false := by
  rw [m.perm_orderedOthers.mem_iff, others, List.mem_filter, Bool.not_eq_true']

theorem nodup_orderedOthers (hd : m.HasDistinctNames) :
    (m.orderedOthers.map ModelField.name).Nodup := by
  rw [(m.perm_orderedOthers.map _).nodup_iff]
  exact hd.sublist (List.filter_sublist.map _)

end Model

namespace FieldBuilder

variable {b : FieldBuilder} {m : Model} {f : ModelField} {name : String} {depth : ℕ}

/-! ## What is built for a name -/

theorem resolve?_name (hd : m.HasDistinctNames) (hpk : ∀ f ∈ m.fields, f.name ≠ "pk")
    (hf : f ∈ m.fields) : resolve? m f.name = some f := by
  rw [resolve?, if_neg (hpk f hf)]
  exact Model.field?_name hd hf

theorem nested_of_buildStandardField {field : SerializerField}
    (h : b.buildStandardField name f = .ok field) : field.nested = none := by
  obtain ⟨c, hc⟩ := b.exists_findFor f
  cases hw : f.isFixed with
  | true =>
    cases (buildStandardField_of_isFixed hc hw).symm.trans h
    rfl
  | false =>
    by_cases ho : f.flatChoices = []
    · cases (buildStandardField_of_noChoices hc hw ho).symm.trans h
      rfl
    · cases (buildStandardField_of_choices hw ho).symm.trans h
      rfl

/-- A relation is built as a serializer where depth is left, and else by keys or links. -/
theorem buildField_of_relation {r : Relation} (hf : resolve? m name = some f)
    (hr : Relation.forward? f = some r) :
    (∀ depth, 0 < depth → b.buildField name m depth = .ok (buildNestedField r depth)) ∧
      b.buildField name m 0 = .ok (b.buildRelationalField name r) :=
  ⟨fun _ hd => buildField_eq_ok_iff.mpr (.nested hf hr hd),
    buildField_eq_ok_iff.mpr (.related hf hr rfl)⟩

/-- A field is built as a standard field at every depth exactly if it is no relation. -/
theorem buildField_eq_standard_iff (hf : resolve? m name = some f) :
    (∀ depth, b.buildField name m depth = b.buildStandardField name f) ↔ f.isRelation = false := by
  rw [← Relation.isSome_forward?]
  cases hr : Relation.forward? f with
  | none => simp only [buildField, hf, hr, implies_true, Option.isSome_none]
  | some r =>
    refine iff_of_false (fun h => ?_) fun h => ?_
    · have hn := (h 1).symm.trans ((buildField_of_relation hf hr).1 1 Nat.one_pos)
      cases nested_of_buildStandardField hn
    · cases h

/-- A field is built as a serializer or by keys or links, as depth is left, exactly if it is a
relation. -/
theorem buildField_eq_relation_iff (hf : resolve? m name = some f) :
    (∃ r, (∀ depth, 0 < depth → b.buildField name m depth = .ok (buildNestedField r depth)) ∧
      b.buildField name m 0 = .ok (b.buildRelationalField name r)) ↔ f.isRelation = true := by
  constructor
  · rintro ⟨r, hn, -⟩
    by_contra hr
    rw [Bool.not_eq_true, ← buildField_eq_standard_iff (b := b) hf] at hr
    cases nested_of_buildStandardField ((hr 1).symm.trans (hn 1 Nat.one_pos))
  · intro h
    rw [← Relation.isSome_forward?] at h
    obtain ⟨r, hr⟩ := Option.isSome_iff_exists.mp h
    exact ⟨r, buildField_of_relation hf hr⟩

/-- No other field looks like the link to the object itself. -/
theorem builds_link_iff : b.Builds m depth name (b.buildUrlField m.ref) ↔
    resolve? m name = none ∧ name = b.urlFieldName := by
  constructor
  · intro h
    generalize hl : b.buildUrlField m.ref = field at h
    cases h with
    | nested hf hr hd => exact absurd (congrArg SerializerField.nested hl) nofun
    | @related f r hf hr hd =>
      have hread : none = (b.buildRelationalField name r).arguments.readOnly :=
        congrArg (·.arguments.readOnly) hl
      have hquery : none = (b.buildRelationalField name r).arguments.queryset :=
        congrArg (·.arguments.queryset) hl
      cases hw : Arguments.isFixedRelation r with
      | true =>
        rw [buildRelationalField, Arguments.ofRelation_of_isFixed hw] at hread
        cases hread
      | false =>
        rw [buildRelationalField,
          Arguments.ofRelation_of_field hw (Relation.field_of_forward? hr)] at hquery
        cases hquery
    | fixed | choice | bounded => exact absurd (congrArg (·.arguments.viewName) hl) nofun
    | link hf hn => exact ⟨hf, hn⟩
  · rintro ⟨hf, hn⟩
    exact .link hf hn

/-- The link to the object is built exactly if its name is no name of a field. It is no name of a
field that is told by another one either: `pk` stands for a primary key if there is one. -/
theorem buildField_eq_link_iff (hpk : ∀ f ∈ m.fields, f.name ≠ "pk") :
    b.buildField b.urlFieldName m depth = .ok (b.buildUrlField m.ref) ↔
      (∀ f ∈ m.fields, f.name ≠ b.urlFieldName) ∧
        ¬(b.urlFieldName = "pk" ∧ ∃ f ∈ m.fields, f.primaryKey = true) := by
  rw [buildField_eq_ok_iff, builds_link_iff, and_iff_left rfl, resolve?]
  by_cases hn : b.urlFieldName = "pk"
  · rw [if_pos hn, Model.primaryKey?_eq_none_iff, hn, and_iff_right hpk]
    simp only [true_and, not_exists, not_and, Bool.not_eq_true]
  · rw [if_neg hn, Model.field?_eq_none_iff]
    simp only [hn, false_and, not_false_eq_true, and_true]

/-! ## The default names -/

/-- What tells an object from the others among the default names: the link to it where relations
are links, else the first primary key, if there is one. -/
inductive Identity (b : FieldBuilder) (m : Model) : List String → Prop
  | link (h : b.isHyperlinked = true) : Identity b m [b.urlFieldName]
  | key {f : ModelField} (h : b.isHyperlinked = false) (hf : m.IsFirstKey f) :
      Identity b m [f.name]
  | none (h : b.isHyperlinked = false) (hf : ∀ f ∈ m.fields, f.primaryKey = false) :
      Identity b m []

/-- The default names consist of the identity, the fields that are neither primary keys nor
relations, and the relations that are no primary keys, both in the order of the model and no name
twice. -/
structure DefaultParts (b : FieldBuilder) (m : Model) (first : List String)
    (concrete related : List ModelField) : Prop where
  names : b.defaultFieldNames m =
    first ++ concrete.map ModelField.name ++ related.map ModelField.name
  identity : b.Identity m first
  concrete_sublist : concrete.Sublist m.fields
  mem_concrete : ∀ f, f ∈ concrete ↔
    f ∈ m.fields ∧ f.primaryKey = false ∧ f.isRelation = false
  related_sublist : related.Sublist m.fields
  mem_related : ∀ f, f ∈ related ↔ f ∈ m.fields ∧ f.primaryKey = false ∧ f.isRelation = true
  nodup : ((concrete ++ related).map ModelField.name).Nodup

theorem identity_defaultFieldNames (b : FieldBuilder) (m : Model) : ∃ identity,
    b.Identity m identity ∧
      b.defaultFieldNames m = identity ++ m.orderedOthers.map ModelField.name := by
  have hnames (identity : List String) :
      identity ++ (m.others.filter (!·.isRelation)).map ModelField.name ++
        (m.others.filter (·.isRelation)).map ModelField.name =
          identity ++ m.orderedOthers.map ModelField.name := by
    rw [Model.orderedOthers, List.map_append, List.append_assoc]
  cases h : b.isHyperlinked with
  | true =>
    refine ⟨_, .link h, ?_⟩
    rw [defaultFieldNames, h, ← hnames]
    rfl
  | false =>
    cases hk : m.primaryKey? with
    | none =>
      refine ⟨_, .none h (Model.primaryKey?_eq_none_iff.mp hk), ?_⟩
      rw [defaultFieldNames, h, hk, ← hnames]
      rfl
    | some f =>
      refine ⟨_, .key h (Model.primaryKey?_eq_some_iff.mp hk), ?_⟩
      rw [defaultFieldNames, h, hk, ← hnames]
      rfl

theorem exists_defaultParts (b : FieldBuilder) (hd : m.HasDistinctNames) :
    ∃ identity, b.DefaultParts m identity (m.others.filter (!·.isRelation))
      (m.others.filter (·.isRelation)) := by
  obtain ⟨identity, hidentity, hnames⟩ := b.identity_defaultFieldNames m
  have hsub (p : ModelField → Bool) : (m.others.filter p).Sublist m.fields :=
    List.filter_sublist.trans List.filter_sublist
  refine ⟨identity, ?_, hidentity, hsub _, fun f => ?_, hsub _, fun f => ?_,
    Model.nodup_orderedOthers hd⟩
  · rw [hnames, Model.orderedOthers, List.map_append, List.append_assoc]
  · rw [List.mem_filter, Model.others, List.mem_filter, Bool.not_eq_true', Bool.not_eq_true',
      and_assoc]
  · rw [List.mem_filter, Model.others, List.mem_filter, Bool.not_eq_true', and_assoc]

/-- With one primary key, the default names are those of all fields. -/
theorem perm_of_countP (h : b.isHyperlinked = false)
    (hk : m.fields.countP (·.primaryKey) = 1) :
    (b.defaultFieldNames m).Perm (m.fields.map ModelField.name) := by
  rw [List.countP_eq_length_filter] at hk
  obtain ⟨f, hf⟩ := List.length_eq_one_iff.mp hk
  have hfirst : m.primaryKey? = some f := by
    rw [Model.primaryKey?, ← List.head?_filter, hf]
    rfl
  have hnames : b.defaultFieldNames m = (m.fields.filter (·.primaryKey) ++
      m.orderedOthers).map ModelField.name := by
    rw [defaultFieldNames, h, hfirst, hf, Model.orderedOthers, ← List.append_assoc, List.map_append,
      List.map_append]
    rfl
  rw [hnames]
  refine List.Perm.map _ ((m.perm_orderedOthers.append_left _).trans ?_)
  exact List.filter_append_perm ModelField.primaryKey m.fields

/-- The link to the object is named once unless a field that is no primary key has its name. -/
theorem nodup_defaultFieldNames_iff (hd : m.HasDistinctNames) (h : b.isHyperlinked = true) :
    (b.defaultFieldNames m).Nodup ↔
      ∀ f ∈ m.fields, f.primaryKey = false → f.name ≠ b.urlFieldName := by
  obtain ⟨identity, hidentity, hnames⟩ := b.identity_defaultFieldNames m
  cases hidentity with
  | key hn | none hn => rw [h] at hn; cases hn
  | link =>
    rw [hnames, List.singleton_append, List.nodup_cons, and_iff_left (Model.nodup_orderedOthers hd),
      List.mem_map]
    simp only [Model.mem_orderedOthers, not_exists, not_and, and_imp, ne_eq]

/-- The default names of a model are the link to the object where relations are links, else its
first primary key, then the fields that are neither primary keys nor relations, and then the
relations that are no primary keys. With one primary key and relations that are no links, these are
all names of fields in another order. Where no field is named as the alias of the primary key, the
last part are those of the fields which are built as relations, while the others are built as
standard fields; the link is named once unless a field that is no primary key has its name, and is
built unless its name selects a field. -/
theorem defaultFieldNames_coverModel (b : FieldBuilder) (m : Model) (hd : m.HasDistinctNames) :
    ∃ first concrete related, b.DefaultParts m first concrete related ∧
      (b.isHyperlinked = false → m.fields.countP (·.primaryKey) = 1 →
        (b.defaultFieldNames m).Perm (m.fields.map ModelField.name)) ∧
      ((∀ f ∈ m.fields, f.name ≠ "pk") → ∀ f ∈ m.fields, f.primaryKey = false →
        (f.name ∈ related.map ModelField.name ↔ ∃ r,
          (∀ depth, 0 < depth →
            b.buildField f.name m depth = .ok (buildNestedField r depth)) ∧
          b.buildField f.name m 0 = .ok (b.buildRelationalField f.name r)) ∧
        (f.name ∈ concrete.map ModelField.name ↔
          ∀ depth, b.buildField f.name m depth = b.buildStandardField f.name f)) ∧
      (b.isHyperlinked = true →
        (b.defaultFieldNames m).head? = some b.urlFieldName ∧
        ((b.defaultFieldNames m).Nodup ↔
          ∀ f ∈ m.fields, f.primaryKey = false → f.name ≠ b.urlFieldName) ∧
        ((∀ f ∈ m.fields, f.name ≠ "pk") → ∀ depth,
          (b.buildField b.urlFieldName m depth = .ok (b.buildUrlField m.ref) ↔
            (∀ f ∈ m.fields, f.name ≠ b.urlFieldName) ∧
              ¬(b.urlFieldName = "pk" ∧ ∃ f ∈ m.fields, f.primaryKey = true)))) := by
  obtain ⟨identity, hparts⟩ := b.exists_defaultParts hd
  have hmem {fields : List ModelField} (hsub : fields.Sublist m.fields) {f : ModelField}
      (hf : f ∈ m.fields) : f.name ∈ fields.map ModelField.name ↔ f ∈ fields := by
    refine ⟨fun h => ?_, List.mem_map_of_mem⟩
    obtain ⟨g, hg, hname⟩ := List.mem_map.mp h
    rwa [← List.inj_on_of_nodup_map hd (hsub.subset hg) hf hname]
  refine ⟨identity, _, _, hparts, perm_of_countP, fun hpk f hf hk => ?_,
    fun h => ⟨?_, nodup_defaultFieldNames_iff hd h, fun hpk _ => buildField_eq_link_iff hpk⟩⟩
  · have hr := resolve?_name hd hpk hf
    rw [hmem hparts.related_sublist hf, hmem hparts.concrete_sublist hf, hparts.mem_related,
      hparts.mem_concrete, buildField_eq_relation_iff hr, buildField_eq_standard_iff hr]
    exact ⟨⟨fun h => h.2.2, fun h => ⟨hf, hk, h⟩⟩, ⟨fun h => h.2.2, fun h => ⟨hf, hk, h⟩⟩⟩
  · rw [defaultFieldNames, h]
    rfl

/-- The default names of articles are those of their fields, and with links for relations none of
them is named twice and the first is the link. -/
theorem defaultFieldNames_coverModel_article : Model.article.HasDistinctNames ∧
    (FieldBuilder.default.defaultFieldNames .article).Perm
      (Model.article.fields.map ModelField.name) ∧
    (FieldBuilder.hyperlinked.defaultFieldNames .article).Nodup ∧
    FieldBuilder.hyperlinked.buildField "url" .article 1 =
      .ok (FieldBuilder.hyperlinked.buildUrlField Model.article.ref) := by
  have hd : Model.article.HasDistinctNames := by
    unfold Model.HasDistinctNames
    decide
  obtain ⟨_, _, _, -, hperm, -, -⟩ := defaultFieldNames_coverModel .default .article hd
  obtain ⟨_, _, _, -, -, -, hlink⟩ := defaultFieldNames_coverModel .hyperlinked .article hd
  obtain ⟨-, hnodup, hbuild⟩ := hlink rfl
  exact ⟨hd, hperm rfl rfl, hnodup.mpr (by decide), (hbuild (by decide) 1).mpr (by decide)⟩

/-- Where the link has the name of the alias, the primary key is built in its place. -/
example : ((ofSettings { urlFieldName := "pk", hyperlinked := true }).buildField "pk" .article
    0).toOption.map SerializerField.serializerClass = some .integer := by
  rfl

end FieldBuilder

end FieldMap
