import FieldMap.Proofs.CarryingOver

/-!
# What serializer fields accept

A serializer field checks a value by the bounds among its arguments, by the validators listed there,
and by those that its class has by itself (`SerializerField.Accepts`); a model field by all its
validators (`ModelField.Passes`). The arguments of a model field refuse no value that passes its
validators, and they miss only what validators say that were carried over (`passes_iff`). Nothing is
missed where each of these is implied by the argument it was carried over to
(`ModelField.FoldsExactly`, `accepts_ofField`).
-/

namespace FieldMap

namespace Validator

/-- Every value that one validator accepts the other one accepts. -/
def Implies (v w : Validator) : Prop :=
  ∀ value, v.accepts value = true → w.accepts value = true

theorem toBool_demand (holds : Bool) (message code : String) :
    (demand holds message code).toBool = holds := by
  cases holds <;> rfl

theorem implies_maxLength {m n : Nat} (h : m ≤ n) : (maxLength m).Implies (maxLength n) := by
  intro value hv
  simp only [accepts, check, onText] at hv ⊢
  cases ht : value.asText with
  | none => rfl
  | some text =>
    simp only [ht, toBool_demand, decide_eq_true_eq] at hv ⊢
    exact Nat.le_trans hv h

theorem implies_minLength {m n : Nat} (h : n ≤ m) : (minLength m).Implies (minLength n) := by
  intro value hv
  simp only [accepts, check, onText] at hv ⊢
  cases ht : value.asText with
  | none => rfl
  | some text =>
    simp only [ht, toBool_demand, decide_eq_true_eq] at hv ⊢
    exact Nat.le_trans h hv

end Validator

/-- The validator of single values, if it is one. -/
def FieldValidator.value? : FieldValidator → Option Validator
  | .value v => some v
  | .unique _ => none

/-- The validators that fields of a class have by themselves. -/
def SerializerClass.ownValidators : SerializerClass → List Validator
  | .url => [.url Validator.defaultSchemes]
  | .email => [.builtInEmail]
  | .slug => [.builtInSlug]
  | _ => []

namespace Arguments

/-- The validators that the bounds stand for. -/
def bounds (a : Arguments) : List Validator :=
  a.maxLength.toList.map .maxLength ++ a.minLength.toList.map .minLength ++
    a.maxValue.toList.map .maxValue ++ a.minValue.toList.map .minValue

/-- The listed validators of single values. -/
def listed (a : Arguments) : List Validator :=
  (a.validators.getD []).filterMap FieldValidator.value?

end Arguments

/-- Whether a value keeps the bounds and passes the validators of a serializer field. -/
def SerializerField.Accepts (field : SerializerField) (value : Value) : Prop :=
  ∀ v ∈ field.arguments.bounds ++ field.arguments.listed ++ field.serializerClass.ownValidators,
    v.accepts value = true

namespace ModelField

variable {f : ModelField} {name : String}

/-- Whether a value passes all validators of a model field. -/
def Passes (f : ModelField) (value : Value) : Prop :=
  ∀ v ∈ f.allValidators, v.accepts value = true

/-- The arguments of a model field say as much as its validators: a bound implies every validator
that it stands for, and the class of links every validator of links. -/
structure FoldsExactly (name : String) (f : ModelField) : Prop where
  maxLength : ∀ limit, (Arguments.ofField name f).maxLength = some limit →
    ∀ n, .maxLength n ∈ f.validators → (Validator.maxLength limit).Implies (.maxLength n)
  minLength : ∀ limit, (Arguments.ofField name f).minLength = some limit →
    ∀ n, .minLength n ∈ f.validators → (Validator.minLength limit).Implies (.minLength n)
  maxValue : ∀ limit, (Arguments.ofField name f).maxValue = some limit →
    ∀ x, .maxValue x ∈ f.validators → (Validator.maxValue limit).Implies (.maxValue x)
  minValue : ∀ limit, (Arguments.ofField name f).minValue = some limit →
    ∀ x, .minValue x ∈ f.validators → (Validator.minValue limit).Implies (.minValue x)
  url : f.isInstance .url = true →
    ∀ schemes, .url schemes ∈ f.validators →
      (Validator.url Validator.defaultSchemes).Implies (.url schemes)

/-! ## Classes and their validators -/

/-- The class that stands for a model field by default has the validators that the field's type
attaches. -/
theorem exists_defaultClass (f : ModelField) :
    ∃ c, defaultMapping.findFor f = .ok c ∧ c.ownValidators = f.typeValidators := by
  obtain ⟨_, type, _⟩ := f
  cases type <;> exact ⟨_, rfl, rfl⟩

/-- The types of links, mail addresses and slugs attach one validator each. -/
theorem mem_typeValidators_of_isInstance (f : ModelField) :
    (f.isInstance .url = true → .url Validator.defaultSchemes ∈ f.typeValidators) ∧
      (f.isInstance .email = true → .builtInEmail ∈ f.typeValidators) ∧
      (f.isInstance .slug = true → .builtInSlug ∈ f.typeValidators) := by
  obtain ⟨_, type, _⟩ := f
  cases type <;> refine ⟨?_, ?_, ?_⟩ <;>
    first | exact fun _ => List.mem_cons_self | exact nofun

/-! ## Bounds -/

/-- The bounds of a kind that a field has are bounds of its validators. -/
theorem mem_allValidators_of_limit? {α : Type} {ofKind : ValidatorKind → Option α}
    {toValidator : α → Validator}
    (hk : ∀ w n, ofKind (Validator.kind w) = some n → w = toValidator n)
    {v : Validator} (h : v ∈ (f.limit? ofKind).toList.map toValidator) : v ∈ f.allValidators := by
  obtain ⟨n, hn, rfl⟩ := List.mem_map.mp h
  obtain ⟨w, hw, hwn⟩ := List.exists_of_findSome?_eq_some (Option.mem_toList.mp hn)
  rw [← hk w n hwn]
  exact hw

/-- A kind that some validator has gives a bound. -/
theorem exists_limit? {α : Type} (ofKind : ValidatorKind → Option α) (toValidator : α → Validator)
    {v : Validator} {n : α} (hv : v ∈ f.allValidators) (hk : ofKind v.kind = some n) :
    ∃ limit, f.limit? ofKind = some limit ∧
      toValidator limit ∈ (f.limit? ofKind).toList.map toValidator := by
  obtain ⟨limit, hl⟩ : ∃ limit, f.limit? ofKind = some limit := by
    refine Option.isSome_iff_exists.mp (List.findSome?_isSome_iff.mpr ⟨v, hv, ?_⟩)
    rw [hk]
    rfl
  refine ⟨limit, hl, ?_⟩
  rw [hl]
  exact List.mem_cons_self

/-- A validator with a bound is known by its kind. -/
theorem eq_of_kind (w : Validator) :
    (∀ n, ValidatorKind.minLength? w.kind = some n → w = .minLength n) ∧
      (∀ x, ValidatorKind.maxValue? w.kind = some x → w = .maxValue x) ∧
      ∀ x, ValidatorKind.minValue? w.kind = some x → w = .minValue x := by
  refine ⟨fun _ h => ?_, fun _ h => ?_, fun _ h => ?_⟩ <;> cases w <;> cases h <;> rfl

theorem mem_bounds_iff {a : Arguments} {v : Validator} : v ∈ (a.withBounds f).bounds ↔
    v ∈ f.lengthValidators ∨
      v ∈ (f.limit? ValidatorKind.minLength?).toList.map Validator.minLength ∨
      v ∈ (f.limit? ValidatorKind.maxValue?).toList.map Validator.maxValue ∨
      v ∈ (f.limit? ValidatorKind.minValue?).toList.map Validator.minValue := by
  have hl : (a.withBounds f).maxLength.toList.map Validator.maxLength = f.lengthValidators := by
    simp only [Arguments.withBounds_eq, lengthValidators]
    split <;> rfl
  rw [Arguments.bounds, hl, List.mem_append, List.mem_append, List.mem_append, or_assoc, or_assoc,
    Arguments.withBounds_eq]

/-- The listed validators of single values are those that were not carried over. -/
theorem listed_withBounds (a : Arguments) :
    (a.withBounds f).listed = f.allValidators.filter (!f.isCarriedOver ·) := by
  have hu : (f.uniqueValidator?.toList.map FieldValidator.unique).filterMap
      FieldValidator.value? = [] := by
    cases f.uniqueValidator? <;> rfl
  rw [Arguments.withBounds_eq]
  show List.filterMap _ ((f.validatorsWithUnique _).getD []) = _
  rw [getD_validatorsWithUnique, List.filterMap_append, hu, List.append_nil, List.filterMap_map]
  exact List.filterMap_some

/-- The arguments refuse what the validators refuse, but for validators that were carried over. -/
theorem passes_iff {a : Arguments} {c : SerializerClass} (hc : c.ownValidators = f.typeValidators)
    {value : Value} : f.Passes value ↔
      (⟨c, a.withBounds f, none⟩ : SerializerField).Accepts value ∧
        ∀ v ∈ f.validators, f.isCarriedOver v = true → v.accepts value = true := by
  constructor
  · intro hp
    refine ⟨fun v hv => hp v ?_, fun v hv _ => hp v (List.mem_append_right _ hv)⟩
    simp only [List.mem_append, mem_bounds_iff, hc] at hv
    rcases hv with ((hl | hn | hx | hx) | hv) | ht
    · exact List.mem_append_left _ (List.mem_append_right _ hl)
    · exact mem_allValidators_of_limit? (fun w => (eq_of_kind w).1) hn
    · exact mem_allValidators_of_limit? (fun w => (eq_of_kind w).2.1) hx
    · exact mem_allValidators_of_limit? (fun w => (eq_of_kind w).2.2) hx
    · rw [listed_withBounds] at hv
      exact (List.mem_filter.mp hv).1
    · exact List.mem_append_left _ (List.mem_append_left _ ht)
  · rintro ⟨ha, hcarried⟩ v hv
    have hall := hv
    simp only [allValidators, List.mem_append] at hv
    rcases hv with (ht | hl) | he
    · exact ha v (List.mem_append_right _ (hc ▸ ht))
    · exact ha v (List.mem_append_left _ (List.mem_append_left _ (mem_bounds_iff.mpr (.inl hl))))
    · cases hv : f.isCarriedOver v with
      | true => exact hcarried v he hv
      | false =>
        refine ha v (List.mem_append_left _ (List.mem_append_right _ ?_))
        rw [listed_withBounds]
        exact List.mem_filter.mpr ⟨hall, by rw [hv]; rfl⟩

/-- Where the arguments say as much as the validators, what was carried over is still asked for. -/
theorem FoldsExactly.accepts_carriedOver (h : FoldsExactly name f) {a : Arguments}
    (hk : Arguments.ofField name f = a.withBounds f) {c : SerializerClass}
    (hc : c.ownValidators = f.typeValidators) {value : Value}
    (ha : (⟨c, a.withBounds f, none⟩ : SerializerField).Accepts value) {v : Validator}
    (hv : v ∈ f.validators) (hcv : f.isCarriedOver v = true) : v.accepts value = true := by
  have hall : v ∈ f.allValidators := List.mem_append_right _ hv
  have bound : ∀ w ∈ (a.withBounds f).bounds, w.accepts value = true := fun w hw =>
    ha w (List.mem_append_left _ (List.mem_append_left _ hw))
  have own : ∀ w ∈ f.typeValidators, w.accepts value = true := fun w hw =>
    ha w (List.mem_append_right _ (hc ▸ hw))
  obtain ⟨hurl, hemail, hslug⟩ := f.mem_typeValidators_of_isInstance
  replace hk := hk.trans (Arguments.withBounds_eq a f)
  -- What a validator was carried over to, a bound or the class, depends on its kind.
  cases v with
  | maxLength n =>
    obtain ⟨hchar, hsome⟩ := Bool.and_eq_true_iff.mp hcv
    obtain ⟨limit, hl⟩ := Option.isSome_iff_exists.mp hsome
    have hm : (if f.isInstance .char then f.maxLength else none) = some limit := by
      rw [if_pos hchar, hl]
    refine h.maxLength limit (hk ▸ hm) n hv value (bound _ (mem_bounds_iff.mpr (.inl ?_)))
    rw [lengthValidators, if_pos hchar, hl]
    exact List.mem_cons_self
  | minLength n =>
    obtain ⟨limit, hl, hm⟩ := exists_limit? ValidatorKind.minLength? .minLength hall rfl
    exact h.minLength limit (hk ▸ hl) n hv value (bound _ (mem_bounds_iff.mpr (.inr (.inl hm))))
  | maxValue x =>
    obtain ⟨limit, hl, hm⟩ := exists_limit? ValidatorKind.maxValue? .maxValue hall rfl
    exact h.maxValue limit (hk ▸ hl) x hv value
      (bound _ (mem_bounds_iff.mpr (.inr (.inr (.inl hm)))))
  | minValue x =>
    obtain ⟨limit, hl, hm⟩ := exists_limit? ValidatorKind.minValue? .minValue hall rfl
    exact h.minValue limit (hk ▸ hl) x hv value
      (bound _ (mem_bounds_iff.mpr (.inr (.inr (.inr hm)))))
  | url schemes => exact h.url hcv schemes hv value (own _ (hurl hcv))
  | builtInEmail => exact own _ (hemail hcv)
  | builtInSlug => exact own _ (hslug hcv)
  | email | slug | custom => cases hcv

/-- The arguments of a field that may be written and has no choices refuse no value that passes its
validators, and refuse all others where they say as much as the validators. -/
theorem accepts_ofField (name : String) (f : ModelField) (he : f.editable = true)
    (ha : f.isInstance .auto = false) (ho : f.flatChoices = []) :
    ∃ c, defaultMapping.findFor f = .ok c ∧
      (∀ value, f.Passes value →
        (⟨c, Arguments.ofField name f, none⟩ : SerializerField).Accepts value) ∧
      (FoldsExactly name f → ∀ value,
        (⟨c, Arguments.ofField name f, none⟩ : SerializerField).Accepts value ↔
          f.Passes value) := by
  have hk : Arguments.ofField name f =
      ((Arguments.describing name f).withPresence f).withBounds f :=
    Arguments.ofField_of_noChoices (f.isFixed_eq_false he ha) ho
  obtain ⟨c, hfind, hc⟩ := f.exists_defaultClass
  rw [hk]
  exact ⟨c, hfind, fun value hp => ((passes_iff hc).mp hp).1, fun h value =>
    ⟨fun hv => (passes_iff hc).mpr ⟨hv, fun _ => h.accepts_carriedOver hk hc hv⟩,
      fun hp => ((passes_iff hc).mp hp).1⟩⟩

/-- A headline, of which the first bounds are the strictest. -/
theorem accepts_ofField_headline : ∃ (f : ModelField) (c : SerializerClass),
    FieldBuilder.resolve? .article "headline" = some f ∧ f.editable = true ∧
    f.isInstance .auto = false ∧ f.flatChoices = [] ∧ FoldsExactly "headline" f ∧
    defaultMapping.findFor f = .ok c ∧ ∀ value,
      (⟨c, Arguments.ofField "headline" f, none⟩ : SerializerField).Accepts value ↔
        f.Passes value := by
  obtain ⟨f, hf, he, ha, ho, hv, hmax, hmin⟩ : ∃ f,
      FieldBuilder.resolve? .article "headline" = some f ∧ f.editable = true ∧
      f.isInstance .auto = false ∧ f.flatChoices = [] ∧
      f.validators = [.maxLength 200, .minLength 5, .minLength 3, .email "Mail."] ∧
      (Arguments.ofField "headline" f).maxLength = some 120 ∧
      (Arguments.ofField "headline" f).minLength = some 5 :=
    ⟨_, rfl, rfl, rfl, rfl, rfl, rfl, rfl⟩
  have hfold : FoldsExactly "headline" f := by
    refine ⟨fun limit hl n hn => ?_, fun limit hl n hn => ?_, fun _ _ x hx => ?_,
      fun _ _ x hx => ?_, fun _ schemes hs => ?_⟩
    · cases hmax.symm.trans hl
      have hn : n = 200 := by simpa [hv] using hn
      exact Validator.implies_maxLength (by omega)
    · cases hmin.symm.trans hl
      have hn : n = 5 ∨ n = 3 := by simpa [hv] using hn
      exact Validator.implies_minLength (by omega)
    · simp [hv] at hx
    · simp [hv] at hx
    · simp [hv] at hs
  obtain ⟨c, hc, -, h⟩ := accepts_ofField "headline" f he ha ho
  exact ⟨f, c, hf, he, ha, ho, hfold, hc, h hfold⟩

end ModelField

end FieldMap
