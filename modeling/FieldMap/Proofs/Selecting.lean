import FieldMap.Proofs.Building

/-!
# Which selections can be built

Building the fields of a selection is all or nothing. A selection names fields unless one of its
exclusions finds nothing to exclude (`FieldBuilder.Selects`, `selectedNames_eq_ok_iff`), and a name
has a field if it is resolvable (`FieldBuilder.Resolvable`, `buildField_eq_error_iff`). Since a
traversal that fails does so at the first step that does (`mapM_eq_error_iff`,
`foldlM_eq_error_iff`), the error speaks of the first name that is not resolvable
(`buildFields_allOrNothing`).
-/

namespace FieldMap

/-- A traversal that may fail succeeds if every step does. -/
theorem exists_mapM_eq_ok_iff {α β ε : Type} {f : α → Except ε β} {xs : List α} :
    (∃ ys, xs.mapM f = .ok ys) ↔ ∀ x ∈ xs, ∃ y, f x = .ok y := by
  simp only [mapM_eq_ok_iff]
  constructor
  · rintro ⟨ys, h⟩
    induction h with
    | nil => exact nofun
    | cons hy _ ih => exact List.forall_mem_cons.mpr ⟨⟨_, hy⟩, ih⟩
  · intro h
    induction xs with
    | nil => exact ⟨[], .nil⟩
    | cons x xs ih =>
      obtain ⟨y, hy⟩ := h x List.mem_cons_self
      obtain ⟨ys, hys⟩ := ih fun z hz => h z (List.mem_cons_of_mem x hz)
      exact ⟨y :: ys, .cons hy hys⟩

/-- A traversal that may fail fails with the first step that does. -/
theorem mapM_eq_error_iff {α β ε : Type} {f : α → Except ε β} {xs : List α} {e : ε} :
    xs.mapM f = .error e ↔ ∃ before x after, xs = before ++ x :: after ∧
      (∀ y ∈ before, ∃ z, f y = .ok z) ∧ f x = .error e := by
  constructor
  · intro h
    induction xs with
    | nil => cases h
    | cons x xs ih =>
      rw [List.mapM_cons] at h
      cases hx : f x with
      | error e' =>
        rw [hx] at h
        cases h
        exact ⟨[], x, xs, rfl, nofun, hx⟩
      | ok y =>
        cases hxs : xs.mapM f with
        | ok ys =>
          rw [hx, hxs] at h
          cases h
        | error e' =>
          rw [hx, hxs] at h
          cases h
          obtain ⟨before, z, after, rfl, hb, hz⟩ := ih hxs
          exact ⟨x :: before, z, after, rfl, List.forall_mem_cons.mpr ⟨⟨y, hx⟩, hb⟩, hz⟩
  · rintro ⟨before, x, after, rfl, hb, hx⟩
    obtain ⟨ys, hys⟩ := exists_mapM_eq_ok_iff.mpr hb
    rw [List.mapM_append, hys, List.mapM_cons, hx]
    rfl

/-- A run of steps that may fail fails with the first step that does. -/
theorem foldlM_eq_error_iff {α β ε : Type} {f : β → α → Except ε β} {xs : List α} {init : β}
    {e : ε} : xs.foldlM f init = .error e ↔ ∃ before x after reached, xs = before ++ x :: after ∧
      before.foldlM f init = .ok reached ∧ f reached x = .error e := by
  constructor
  · intro h
    induction xs generalizing init with
    | nil => cases h
    | cons x xs ih =>
      rw [List.foldlM_cons] at h
      cases hx : f init x with
      | error e' =>
        rw [hx] at h
        cases h
        exact ⟨[], x, xs, init, rfl, rfl, hx⟩
      | ok next =>
        rw [hx] at h
        obtain ⟨before, y, after, reached, rfl, hb, hy⟩ := ih h
        refine ⟨x :: before, y, after, reached, rfl, ?_, hy⟩
        rw [List.foldlM_cons, hx]
        exact hb
  · rintro ⟨before, x, after, reached, rfl, hb, hx⟩
    rw [List.foldlM_append, hb]
    show (x :: after).foldlM f reached = .error e
    rw [List.foldlM_cons, hx]
    rfl

namespace FieldBuilder

variable {b : FieldBuilder} {m : Model} {depth : Nat} {name : String}

/-! ## Names that have a field -/

/-- The names of which a builder makes a field: `pk` if there is a primary key, the names of fields,
and the name of the link to the object itself. -/
def Resolvable (b : FieldBuilder) (m : Model) (name : String) : Prop :=
  (name = "pk" ∧ ∃ f ∈ m.fields, f.primaryKey = true) ∨
    (name ≠ "pk" ∧ ∃ f ∈ m.fields, f.name = name) ∨ name = b.urlFieldName

theorem resolvable_iff :
    b.Resolvable m name ↔ (∃ f, resolve? m name = some f) ∨ name = b.urlFieldName := by
  rw [Resolvable, ← or_assoc]
  refine or_congr_left ?_
  rw [← Option.isSome_iff_exists, resolve?]
  by_cases hn : name = "pk"
  · simp only [hn, true_and, ne_eq, not_true_eq_false, false_and, or_false, if_true,
      Model.primaryKey?, List.find?_isSome]
  · simp only [hn, false_and, ne_eq, not_false_eq_true, true_and, false_or, if_false, Model.field?,
      List.find?_isSome, beq_iff_eq]

/-- The only reason for which a name has no field is that it is not resolvable. A class is never
missing. -/
theorem buildField_eq_error_iff {e : BuildError} : b.buildField name m depth = .error e ↔
    ¬b.Resolvable m name ∧ e = .unknownField name m.objectName := by
  rw [resolvable_iff]
  cases hf : resolve? m name with
  | some f =>
    obtain ⟨field, hb⟩ := b.exists_builds depth hf
    rw [buildField_eq_ok_iff.mpr hb]
    simp only [reduceCtorEq, Option.some.injEq, exists_eq', true_or, not_true_eq_false, false_and]
  | none =>
    simp only [buildField, hf, reduceCtorEq, exists_false, false_or]
    by_cases hn : name = b.urlFieldName
    · simp only [hn, if_true, reduceCtorEq, not_true_eq_false, false_and]
    · simp only [hn, if_false, Except.error.injEq, not_false_eq_true, true_and, eq_comm (a := e)]

theorem exists_buildField_iff :
    (∃ field, b.buildField name m depth = .ok field) ↔ b.Resolvable m name := by
  cases h : b.buildField name m depth with
  | error e => simp only [reduceCtorEq, exists_false, (buildField_eq_error_iff.mp h).1]
  | ok field =>
    simp only [Except.ok.injEq, exists_eq', true_iff]
    by_contra hn
    rw [buildField_eq_error_iff.mpr ⟨hn, rfl⟩] at h
    cases h

/-- A selected name fails as its field does. -/
theorem buildSelected_eq_error_iff {s : Selection} {e : BuildError} :
    b.buildSelected m s name = .error e ↔
      ¬b.Resolvable m name ∧ e = .unknownField name m.objectName := by
  rw [← @buildField_eq_error_iff b m s.depth name e, buildSelected]
  cases b.buildField name m s.depth with
  | error e' =>
    show Except.error e' = Except.error e ↔ _
    simp only [Except.error.injEq]
  | ok field =>
    show (if s.readOnly.contains name = true
      then Except.ok (name, { field with arguments := field.arguments.makeReadOnly })
      else Except.ok (name, field)) = Except.error e ↔ _
    simp only [reduceCtorEq, iff_false]
    split <;> simp only [reduceCtorEq, not_false_eq_true]

theorem exists_buildSelected_iff {s : Selection} :
    (∃ entry, b.buildSelected m s name = .ok entry) ↔ b.Resolvable m name := by
  simp only [buildSelected_eq_ok_iff, ← @exists_buildField_iff b m s.depth, buildField_eq_ok_iff]
  constructor
  · rintro ⟨-, field, hb, -⟩
    exact ⟨field, hb⟩
  · rintro ⟨field, hb⟩
    exact ⟨_, field, hb, rfl⟩

/-! ## Names that a selection yields -/

/-- The names that a selection yields, in order. All fields but some are there only if these differ
from each other and each of them is a field. -/
inductive Selects (b : FieldBuilder) (m : Model) : FieldSelection → List String → Prop
  | all : Selects b m .all (b.defaultFieldNames m)
  | only (names : List String) : Selects b m (.only names) names
  | allBut {excluded : List String} (distinct : excluded.Nodup)
      (found : ∀ name ∈ excluded, name ∈ b.defaultFieldNames m) :
      Selects b m (.allBut excluded)
        ((b.defaultFieldNames m).filter fun name => !excluded.contains name)

/-- Exclusions apply one after the other if they differ and each name is there at the start. -/
theorem foldlM_exclude_eq_ok_iff {excluded names rest : List String} :
    excluded.foldlM (exclude m) names = .ok rest ↔
      excluded.Nodup ∧ (∀ name ∈ excluded, name ∈ names) ∧
        rest = names.filter fun name => !excluded.contains name := by
  induction excluded generalizing names with
  | nil =>
    have hf : (names.filter fun name => !([] : List String).contains name) = names :=
      List.filter_eq_self.mpr fun _ _ => rfl
    rw [hf]
    simp [pure, Except.pure, eq_comm]
  | cons x excluded ih =>
    rw [List.foldlM_cons, exclude]
    by_cases hx : x ∈ names
    · -- What is excluded later is looked for among the names without `x`.
      have hsub : (∀ name ∈ excluded, name ∈ names.filter (· != x)) ↔
          x ∉ excluded ∧ ∀ name ∈ excluded, name ∈ names := by
        simp only [List.mem_filter, bne_iff_ne]
        constructor
        · exact fun h => ⟨fun hm => (h x hm).2 rfl, fun name hm => (h name hm).1⟩
        · exact fun h name hm => ⟨h.2 name hm, fun he => h.1 (he ▸ hm)⟩
      have hfilter : ((names.filter (· != x)).filter fun name => !excluded.contains name) =
          names.filter fun name => !(x :: excluded).contains name := by
        rw [List.filter_filter]
        refine List.filter_congr fun name _ => ?_
        rw [List.contains_cons, Bool.not_or, Bool.and_comm]
        rfl
      rw [if_pos (List.contains_iff_mem.mpr hx)]
      show excluded.foldlM (exclude m) (names.filter (· != x)) = _ ↔ _
      rw [ih, hsub, hfilter, List.nodup_cons, List.forall_mem_cons]
      tauto
    · rw [if_neg fun h => hx (List.contains_iff_mem.mp h)]
      constructor
      · intro h
        cases h
      · rintro ⟨-, hall, -⟩
        exact absurd (hall x List.mem_cons_self) hx

theorem exclude_eq_error_iff {names : List String} {e : BuildError} :
    exclude m names name = .error e ↔ name ∉ names ∧ e = .cannotExclude name m.objectName := by
  rw [exclude]
  by_cases hn : name ∈ names
  · simp only [List.contains_iff_mem.mpr hn, if_true, reduceCtorEq, hn, not_true_eq_false,
      false_and]
  · rw [if_neg fun hc => hn (List.contains_iff_mem.mp hc)]
    simp only [Except.error.injEq, hn, not_false_eq_true, true_and, eq_comm (a := e)]

theorem selectedNames_eq_ok_iff {fields : FieldSelection} {names : List String} :
    b.selectedNames m fields = .ok names ↔ b.Selects m fields names := by
  constructor
  · intro h
    cases fields with
    | all =>
      cases h
      exact .all
    | only given =>
      cases h
      exact .only names
    | allBut excluded =>
      obtain ⟨hd, hf, rfl⟩ := foldlM_exclude_eq_ok_iff.mp h
      exact .allBut hd hf
  · rintro (_ | _ | ⟨hd, hf⟩)
    · rfl
    · rfl
    · exact foldlM_exclude_eq_ok_iff.mpr ⟨hd, hf, rfl⟩

/-- An exclusion that does not apply is the only reason for which a selection yields no names. -/
theorem exists_of_selectedNames_eq_error {fields : FieldSelection} {e : BuildError}
    (h : b.selectedNames m fields = .error e) : ∃ name, e = .cannotExclude name m.objectName := by
  cases fields with
  | all => cases h
  | only names => cases h
  | allBut excluded =>
    obtain ⟨_, name, _, _, _, _, hx⟩ := foldlM_eq_error_iff.mp h
    exact ⟨name, (exclude_eq_error_iff.mp hx).2⟩

/-! ## All or nothing -/

/-- Building fails if the selection does, and else at its first name that is not resolvable. -/
theorem buildFields_eq_error_iff {s : Selection} {e : BuildError} :
    b.buildFields m s = .error e ↔ b.selectedNames m s.fields = .error e ∨
      ∃ before name after, b.Selects m s.fields (before ++ name :: after) ∧
        (∀ n ∈ before, b.Resolvable m n) ∧ ¬b.Resolvable m name ∧
        e = .unknownField name m.objectName := by
  simp only [← selectedNames_eq_ok_iff, ← exists_buildSelected_iff (s := s)]
  rw [buildFields]
  cases b.selectedNames m s.fields with
  | error e' =>
    show Except.error e' = Except.error e ↔ _
    simp only [reduceCtorEq, false_and, exists_false, or_false, Except.error.injEq]
  | ok names =>
    show names.mapM (b.buildSelected m s) = .error e ↔ _
    rw [mapM_eq_error_iff]
    simp only [reduceCtorEq, Except.ok.injEq, false_or, buildSelected_eq_error_iff,
      exists_buildSelected_iff]

/-- The fields that are built have the selected names. -/
theorem selects_of_buildFields {s : Selection} {built : List (String × SerializerField)}
    (h : b.buildFields m s = .ok built) : b.Selects m s.fields (built.map Prod.fst) := by
  obtain ⟨names, hs, hall⟩ := buildFields_eq_ok_iff.mp h
  have hnames : built.map Prod.fst = names := by
    clear hs h
    induction hall with
    | nil => rfl
    | cons he _ ih =>
      obtain ⟨field, -, rfl⟩ := buildSelected_eq_ok_iff.mp he
      rw [List.map_cons, ih]
  rw [hnames]
  exact selectedNames_eq_ok_iff.mp hs

/-- Building the fields of a selection succeeds exactly if the selection yields names and all of
them are resolvable. It then gives the field of each name in order, made read only where the
selection says so. It fails with a request that does not fit the model, at the first selected name
that is not resolvable if there are names at all. -/
theorem buildFields_allOrNothing (b : FieldBuilder) (m : Model) (s : Selection) :
    ((∃ built, b.buildFields m s = .ok built) ↔
      ∃ names, b.Selects m s.fields names ∧ ∀ name ∈ names, b.Resolvable m name) ∧
    (∀ built, b.buildFields m s = .ok built →
      b.Selects m s.fields (built.map Prod.fst) ∧
      ∀ name field, (name, field) ∈ built → ∃ base, b.buildField name m s.depth = .ok base ∧
        (name ∈ s.readOnly →
          field = { base with arguments := base.arguments.makeReadOnly }) ∧
        (name ∉ s.readOnly → field = base)) ∧
    (∀ e, b.buildFields m s = .error e →
      (∃ detail, e.toError = .improperlyConfigured detail) ∧
      ∀ names, b.Selects m s.fields names → ∃ before name after,
        names = before ++ name :: after ∧ (∀ n ∈ before, b.Resolvable m n) ∧
        ¬b.Resolvable m name ∧ e.toError = .improperlyConfigured
          ("Field name `" ++ name ++ "` is not valid for model `" ++ m.objectName ++ "`.")) := by
  refine ⟨?_, fun built h => ?_, fun e h => ?_⟩
  · simp only [← selectedNames_eq_ok_iff, ← exists_buildSelected_iff (s := s),
      ← exists_mapM_eq_ok_iff, mapM_eq_ok_iff, buildFields_eq_ok_iff]
    constructor
    · rintro ⟨built, names, hs, hb⟩
      exact ⟨names, hs, built, hb⟩
    · rintro ⟨names, hs, built, hb⟩
      exact ⟨built, names, hs, hb⟩
  · refine ⟨selects_of_buildFields h, fun name field hx => ?_⟩
    obtain ⟨base, hb, hf⟩ := exists_builds_of_mem_buildFields h hx
    refine ⟨base, buildField_eq_ok_iff.mpr hb, fun hr => ?_, fun hr => ?_⟩
    · rw [hf, if_pos (List.contains_iff_mem.mpr hr)]
    · rw [hf, if_neg fun hc => hr (List.contains_iff_mem.mp hc)]
  · rcases buildFields_eq_error_iff.mp h with hs | ⟨before, name, after, hs, hb, hn, rfl⟩
    · obtain ⟨name, rfl⟩ := exists_of_selectedNames_eq_error hs
      refine ⟨⟨_, rfl⟩, fun names hnames => ?_⟩
      rw [selectedNames_eq_ok_iff.mpr hnames] at hs
      cases hs
    · refine ⟨⟨_, rfl⟩, fun names hnames => ⟨before, name, after, ?_, hb, hn, rfl⟩⟩
      have := (selectedNames_eq_ok_iff.mpr hnames).symm.trans (selectedNames_eq_ok_iff.mpr hs)
      exact Except.ok.inj this

end FieldBuilder

end FieldMap
