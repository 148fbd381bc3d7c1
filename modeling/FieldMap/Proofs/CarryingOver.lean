import FieldMap.Proofs.Building

/-!
# Validators that are carried over

The arguments of a field that may be written and has no choices are made in passes over its
validators. A pass takes the first bound of a kind and drops all bounds of that kind
(`Validator.takeLimit`), or it drops what the serializer field has by itself (`Validator.dropIf`).
Since no pass drops the bounds that a later one looks for, each bound is the first one of all
validators (`ModelField.limit?`), and the passes come to one filter (`ModelField.isCarriedOver`,
`Arguments.withBounds_eq`). So each validator is either carried over to an argument or to the class,
or listed among the arguments, as often as before and in the order it had
(`Arguments.carriesOver_ofField`).
-/

namespace FieldMap

namespace Validator

variable {α : Type} {ofKind : ValidatorKind → Option α} {p : Validator → Bool}

/-! ## Passes -/

theorem dropIf_eq_filter (condition : Bool) (p : Validator → Bool) (vs : List Validator) :
    dropIf condition p vs = vs.filter fun v => !(p v && condition) := by
  cases condition with
  | true => simp only [dropIf, if_true, Bool.and_true]
  | false => simp only [dropIf, Bool.false_eq_true, if_false, Bool.and_false, Bool.not_false,
      List.filter_true]

/-- A further condition on what is left. -/
theorem dropIf_filter (condition : Bool) (q : Validator → Bool) (vs : List Validator) :
    dropIf condition q (vs.filter p) = vs.filter fun v => !(q v && condition) && p v := by
  rw [dropIf_eq_filter, List.filter_filter]

/-- Where there is no bound to take, no validator is dropped by the filter either. -/
theorem takeLimit_eq (ofKind : ValidatorKind → Option α) (vs : List Validator) :
    takeLimit ofKind vs =
      (vs.findSome? fun v => ofKind v.kind, vs.filter fun v => (ofKind v.kind).isNone) := by
  cases h : vs.findSome? fun v => ofKind v.kind with
  | some limit => rw [takeLimit, h]
  | none =>
    have hall : vs.filter (fun v => (ofKind v.kind).isNone) = vs :=
      List.filter_eq_self.mpr fun v hv =>
        Option.isNone_iff_eq_none.mpr (List.findSome?_eq_none_iff.mp h v hv)
    rw [takeLimit, h, hall]

/-- Of what passes have left, the first bound of a kind is the first of all if they drop none of
that kind. -/
theorem takeLimit_filter (hp : ∀ v, (ofKind (kind v)).isSome = true → p v = true)
    (vs : List Validator) :
    takeLimit ofKind (vs.filter p) =
      (vs.findSome? fun v => ofKind v.kind,
        vs.filter fun v => (ofKind v.kind).isNone && p v) := by
  have hfirst : (vs.filter p).findSome? (fun v => ofKind v.kind) =
      vs.findSome? fun v => ofKind v.kind := by
    rw [← List.head?_filterMap, ← List.head?_filterMap, List.filterMap_filter]
    refine congrArg _ (List.filterMap_congr fun v _ => ?_)
    cases hv : ofKind v.kind with
    | none => exact ite_self none
    | some limit => exact if_pos (hp v (by rw [hv]; rfl))
  rw [takeLimit_eq, hfirst, List.filter_filter]

end Validator

/-! ## What the passes come to -/

namespace ModelField

/-- The first bound of one kind among the field's validators. -/
def limit? {α : Type} (f : ModelField) (ofKind : ValidatorKind → Option α) : Option α :=
  f.allValidators.findSome? fun v => ofKind v.kind

/-- Whether the field's serializer field need not be given a validator: because an argument says
as much, or because the serializer field has the validator by itself. -/
def isCarriedOver (f : ModelField) (v : Validator) : Bool :=
  match v with
  | .maxLength _ => f.isInstance .char && f.maxLength.isSome
  | .minLength _ | .maxValue _ | .minValue _ => true
  | .url _ => f.isInstance .url
  | .builtInEmail => f.isInstance .email
  | .builtInSlug => f.isInstance .slug
  | .email _ | .slug _ | .custom _ => false

theorem isFixed_eq_false (f : ModelField) (he : f.editable = true)
    (ha : f.isInstance .auto = false) : f.isFixed = false := by
  rw [isFixed, ha, he]
  rfl

end ModelField

namespace Arguments

open Validator in
/-- The bounds are the first ones of all validators, and what was not carried over is left. -/
theorem withBounds_eq (a : Arguments) (f : ModelField) : a.withBounds f = { a with
    maxLength := if f.isInstance .char then f.maxLength else none
    minLength := f.limit? ValidatorKind.minLength?
    maxValue := f.limit? ValidatorKind.maxValue?
    minValue := f.limit? ValidatorKind.minValue?
    validators := f.validatorsWithUnique (f.allValidators.filter (!f.isCarriedOver ·)) } := by
  have hmax : (if f.isInstance .char then f.maxLength else none).isSome =
      (f.isInstance .char && f.maxLength.isSome) := by
    cases f.isInstance .char <;> rfl
  rw [withBounds, dropIf_eq_filter, hmax, takeLimit_filter]
  dsimp only
  rw [takeLimit_filter]
  dsimp only
  rw [takeLimit_filter]
  dsimp only
  rw [dropIf_filter, dropIf_filter, dropIf_filter,
    List.filter_congr (q := (!f.isCarriedOver ·)) fun v _ => ?_]
  · rfl
  · cases v <;> simp [ModelField.isCarriedOver, kind, ValidatorKind.maxLength?,
      ValidatorKind.minLength?, ValidatorKind.maxValue?, ValidatorKind.minValue?]
  -- No pass drops the bounds of a later one: a validator has one kind.
  all_goals
    intro v hv
    cases v <;> first | rfl | cases hv

end Arguments

/-! ## What becomes of each validator -/

namespace ValidatorKind

theorem minLength?_eq_some_iff (k : ValidatorKind) (limit : Nat) :
    k.minLength? = some limit ↔ k = .minLength limit := by
  cases k <;> simp [minLength?]

theorem maxValue?_eq_some_iff (k : ValidatorKind) (limit : Binary64) :
    k.maxValue? = some limit ↔ k = .maxValue limit := by
  cases k <;> simp [maxValue?]

theorem minValue?_eq_some_iff (k : ValidatorKind) (limit : Binary64) :
    k.minValue? = some limit ↔ k = .minValue limit := by
  cases k <;> simp [minValue?]

end ValidatorKind

/-- The first of the validators with a bound of one kind has the bound `limit`. -/
def Validator.IsFirstBound {α : Type} (bound : α → ValidatorKind) (vs : List Validator)
    (limit : α) : Prop :=
  ∃ before v after, vs = before ++ v :: after ∧ v.kind = bound limit ∧
    ∀ w ∈ before, ∀ other, w.kind ≠ bound other

theorem ModelField.limit?_eq_some_iff {α : Type} {ofKind : ValidatorKind → Option α}
    {bound : α → ValidatorKind} (h : ∀ k limit, ofKind k = some limit ↔ k = bound limit)
    {f : ModelField} {limit : α} :
    f.limit? ofKind = some limit ↔ Validator.IsFirstBound bound f.allValidators limit := by
  simp only [limit?, List.findSome?_eq_some_iff, Validator.IsFirstBound, h,
    Option.eq_none_iff_forall_ne_some, ne_eq]

theorem ModelField.getD_validatorsWithUnique (f : ModelField) (vs : List Validator) :
    (f.validatorsWithUnique vs).getD [] =
      vs.map .value ++ f.uniqueValidator?.toList.map .unique := by
  rw [validatorsWithUnique]
  split
  · rename_i h
    exact h.symm
  · rfl

theorem ModelField.validatorsWithUnique_eq_none_iff (f : ModelField) (vs : List Validator) :
    f.validatorsWithUnique vs = none ↔ (f.validatorsWithUnique vs).getD [] = [] := by
  rw [validatorsWithUnique]
  split
  · exact iff_of_true rfl rfl
  · rename_i hne
    exact iff_of_false nofun hne

/-- Each validator of a model field is either carried over to the arguments or to the class that
they are for, or listed among them. -/
structure Arguments.CarriesOver (a : Arguments) (f : ModelField) : Prop where
  maxLength : ∀ limit, a.maxLength = some limit ↔
    f.isInstance .char = true ∧ f.maxLength = some limit
  minLength : ∀ limit, a.minLength = some limit ↔
    Validator.IsFirstBound .minLength f.allValidators limit
  maxValue : ∀ limit, a.maxValue = some limit ↔
    Validator.IsFirstBound .maxValue f.allValidators limit
  minValue : ∀ limit, a.minValue = some limit ↔
    Validator.IsFirstBound .minValue f.allValidators limit
  /-- The bounds that there is an argument for are carried over to it. Of forms, those are carried
  over to a class that checks them by itself: all of links, but of mail addresses and of slugs only
  the one that such fields attach themselves. -/
  isCarriedOver_iff : ∀ v, f.isCarriedOver v = true ↔
    (∃ limit, v.kind = .minLength limit) ∨ (∃ limit, v.kind = .maxValue limit) ∨
      (∃ limit, v.kind = .minValue limit) ∨
      ((∃ limit, v.kind = .maxLength limit) ∧ a.maxLength ≠ none) ∨
      (v.kind = .url ∧ f.isInstance .url = true) ∨
      (v = .builtInEmail ∧ f.isInstance .email = true) ∨
      (v = .builtInSlug ∧ f.isInstance .slug = true)
  /-- All others are listed in the order they had, and after them at most one of uniqueness. -/
  listed : ∃ last : Option UniqueValidator, a.validators.getD [] =
    (f.allValidators.filter (!f.isCarriedOver ·)).map .value ++ last.toList.map .unique
  /-- Where none is listed, there is no list either. -/
  validators_eq_none_iff : a.validators = none ↔ a.validators.getD [] = []

namespace Arguments

theorem carriesOver_withBounds (a : Arguments) (f : ModelField) :
    (a.withBounds f).CarriesOver f := by
  rw [withBounds_eq]
  exact {
    maxLength := fun _ => Option.ite_none_right_eq_some
    minLength := fun _ => ModelField.limit?_eq_some_iff ValidatorKind.minLength?_eq_some_iff
    maxValue := fun _ => ModelField.limit?_eq_some_iff ValidatorKind.maxValue?_eq_some_iff
    minValue := fun _ => ModelField.limit?_eq_some_iff ValidatorKind.minValue?_eq_some_iff
    isCarriedOver_iff := fun v => by
      cases v <;> simp [ModelField.isCarriedOver, Validator.kind, Option.isSome_iff_ne_none]
    listed := ⟨f.uniqueValidator?, f.getD_validatorsWithUnique _⟩
    validators_eq_none_iff := f.validatorsWithUnique_eq_none_iff _ }

/-- The arguments of a field that may be written and has no choices. -/
theorem carriesOver_ofField (name : String) (f : ModelField) (he : f.editable = true)
    (ha : f.isInstance .auto = false) (ho : f.flatChoices = []) :
    (ofField name f).CarriesOver f := by
  rw [ofField_of_noChoices (f.isFixed_eq_false he ha) ho]
  exact carriesOver_withBounds _ f

/-- A headline has two least lengths, of which the first is told, and a validator of mail addresses
that its class has not by itself. -/
theorem carriesOver_ofField_headline : ∃ f : ModelField,
    FieldBuilder.resolve? .article "headline" = some f ∧ f.editable = true ∧
    f.isInstance .auto = false ∧ f.flatChoices = [] ∧
    f.validators = [.maxLength 200, .minLength 5, .minLength 3, .email "Mail."] ∧
    (ofField "headline" f).CarriesOver f := by
  obtain ⟨f, hf, he, ha, ho, hv⟩ : ∃ f,
      FieldBuilder.resolve? .article "headline" = some f ∧ f.editable = true ∧
      f.isInstance .auto = false ∧ f.flatChoices = [] ∧
      f.validators = [.maxLength 200, .minLength 5, .minLength 3, .email "Mail."] :=
    ⟨_, rfl, rfl, rfl, rfl, rfl⟩
  exact ⟨f, hf, he, ha, ho, hv, carriesOver_ofField "headline" f he ha ho⟩

end Arguments

end FieldMap
