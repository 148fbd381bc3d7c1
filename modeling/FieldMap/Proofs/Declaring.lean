import FieldMap.Model.ModelField
import Mathlib.Data.List.Basic

/-!
# Declarations of fields

A field is declared by options that are entered one after the other. What comes of them is told from
the list of options at once (`ModelField.FollowsOptions`): a flag is set if some option sets it, of
values that replace one another the last one stays, validators are collected, and choices count from
the last time that they were replaced. Each of these follows from what one option does to one
attribute. An option leaves alone the attributes that it does not touch
(`ModelField.agreesOn_apply`), so an attribute depends on the options that touch it only
(`ModelField.agreesOn_foldl_touching`), and options that touch different ones may change places
(`ModelField.declare_closedForm`).
-/

namespace FieldMap

/-- What options say of a field. -/
inductive FieldAttribute where
  | primaryKey
  | null
  | blank
  | default
  | unique
  | maxLength
  | helpText
  | verboseName
  | choices
  | validators
  | editable
  deriving DecidableEq

namespace FieldOption

/-- The attributes that an option is about. -/
def touched : FieldOption → List FieldAttribute
  | .primaryKey => [.primaryKey, .unique]
  | .nullable => [.null]
  | .blank => [.blank]
  | .unique => [.unique]
  | .notEditable => [.editable]
  | .autoNow => [.editable, .blank]
  | .maxLength _ => [.maxLength]
  | .default _ => [.default]
  | .verboseName _ => [.verboseName]
  | .helpText _ => [.helpText]
  | .choices _ | .choiceGroup _ _ => [.choices]
  | .validator _ => [.validators]

/-- Those of some options that touch an attribute, in order. -/
def touching (a : FieldAttribute) (options : List FieldOption) : List FieldOption :=
  options.filter (a ∈ touched ·)

theorem touching_cons (a : FieldAttribute) (o : FieldOption) (options : List FieldOption) :
    touching a (o :: options) =
      if a ∈ o.touched then o :: touching a options else touching a options := by
  rw [touching, List.filter_cons]
  exact if_congr decide_eq_true_iff rfl rfl

/-- Neighbours that touch different attributes may change places. -/
theorem touching_swap {o o' : FieldOption} (h : o.touched.Disjoint o'.touched)
    (before after : List FieldOption) (a : FieldAttribute) :
    touching a (before ++ o :: o' :: after) = touching a (before ++ o' :: o :: after) := by
  have hpair : touching a (o :: o' :: after) = touching a (o' :: o :: after) := by
    by_cases ho : a ∈ o.touched
    · have ho' : a ∉ o'.touched := h ho
      simp only [touching_cons, if_pos ho, if_neg ho']
    · simp only [touching_cons, if_neg ho]
  rw [touching, touching, List.filter_append, List.filter_append]
  exact congrArg _ hpair

/-! ## What options give -/

/-- The limit on length that an option gives. -/
def maxLength? : FieldOption → Option Nat
  | .maxLength limit => some limit
  | _ => none

/-- The default value that an option gives. -/
def default? : FieldOption → Option Value
  | .default value => some value
  | _ => none

/-- The verbose name that an option gives. -/
def verboseName? : FieldOption → Option String
  | .verboseName name => some name
  | _ => none

/-- The help text that an option gives. -/
def helpText? : FieldOption → Option String
  | .helpText text => some text
  | _ => none

/-- The validator that an option attaches. -/
def validator? : FieldOption → Option Validator
  | .validator v => some v
  | _ => none

/-- The choices that an option adds to those there are. -/
def addedChoices : FieldOption → List (Value × String)
  | .choiceGroup _ options => options
  | _ => []

end FieldOption

namespace ModelField

open FieldOption (touching touching_cons touching_swap)

variable {f g : ModelField} {options options' : List FieldOption} {a : FieldAttribute}

/-! ## Runs of options -/

/-- A flag that options set and never take back is set at the end if it was before, or some option
sets it. -/
theorem flag_foldl_apply (flag : ModelField → Bool) (setters : List FieldOption)
    (h : ∀ f o, flag (f.apply o) = true ↔ flag f = true ∨ o ∈ setters) (f : ModelField)
    (options : List FieldOption) :
    flag (options.foldl apply f) = true ↔ flag f = true ∨ ∃ o ∈ setters, o ∈ options := by
  induction options generalizing f with
  | nil => simp
  | cons o options ih =>
    have hcons : (∃ s ∈ setters, s ∈ o :: options) ↔ o ∈ setters ∨ ∃ s ∈ setters, s ∈ options := by
      simp only [List.mem_cons, and_or_left, exists_or, exists_eq_right]
    rw [List.foldl_cons, ih, h, hcons, or_assoc]

/-- Of values that options replace, the last one given stays, or else the one from before. -/
theorem value_foldl_apply {α : Type} (value : ModelField → Option α)
    (given : FieldOption → Option α)
    (h : ∀ f o, value (f.apply o) = (given o).or (value f)) (f : ModelField)
    (options : List FieldOption) :
    value (options.foldl apply f) = (options.filterMap given).getLast?.or (value f) := by
  induction options generalizing f with
  | nil => rfl
  | cons o options ih =>
    rw [List.foldl_cons, ih, h, ← Option.or_assoc]
    cases ho : given o with
    | none => rw [List.filterMap_cons_none ho, Option.or_none]
    | some x =>
      rw [List.filterMap_cons_some ho, List.getLast?_cons]
      cases (options.filterMap given).getLast? <;> rfl

theorem validators_foldl_apply (f : ModelField) (options : List FieldOption) :
    (options.foldl apply f).validators =
      f.validators ++ options.filterMap FieldOption.validator? := by
  induction options generalizing f with
  | nil => exact (List.append_nil _).symm
  | cons o options ih =>
    rw [List.foldl_cons, ih]
    cases o with
    | validator v => exact List.append_assoc ..
    | _ => rfl

/-- An option adds its choices to those there are, unless it replaces them. -/
theorem flatChoices_apply {o : FieldOption} (h : ∀ chosen, o ≠ .choices chosen) (f : ModelField) :
    (f.apply o).flatChoices = f.flatChoices ++ o.addedChoices := by
  cases o with
  | choices chosen => exact absurd rfl (h chosen)
  | choiceGroup name options =>
    show (f.choices ++ [Choice.group name options]).flatMap Choice.options = _
    rw [List.flatMap_append, List.flatMap_singleton]
    rfl
  | _ => exact (List.append_nil _).symm

theorem flatChoices_apply_choices (f : ModelField) (chosen : List (Value × String)) :
    (f.apply (.choices chosen)).flatChoices = chosen := by
  show (chosen.map fun o => Choice.option o.1 o.2).flatMap Choice.options = chosen
  rw [List.flatMap_map]
  exact List.flatMap_singleton' chosen

/-- Where no option replaces the choices, all that are given are added up. -/
theorem flatChoices_foldl_apply (h : ∀ chosen, .choices chosen ∉ options) (f : ModelField) :
    (options.foldl apply f).flatChoices =
      f.flatChoices ++ options.flatMap FieldOption.addedChoices := by
  induction options generalizing f with
  | nil => exact (List.append_nil _).symm
  | cons o options ih =>
    have ho (chosen : List (Value × String)) : o ≠ .choices chosen :=
      fun he => h chosen (he ▸ List.mem_cons_self)
    have hrest (chosen : List (Value × String)) : .choices chosen ∉ options :=
      fun hm => h chosen (List.mem_cons_of_mem _ hm)
    rw [List.foldl_cons, ih hrest, flatChoices_apply ho, List.append_assoc, List.flatMap_cons]

theorem apply_keeps (f : ModelField) (o : FieldOption) :
    (f.apply o).name = f.name ∧ (f.apply o).type = f.type ∧ (f.apply o).model = f.model := by
  cases o <;> exact ⟨rfl, rfl, rfl⟩

/-- Options leave name, type and model as they are. -/
theorem foldl_apply_keeps (f : ModelField) (options : List FieldOption) :
    (options.foldl apply f).name = f.name ∧ (options.foldl apply f).type = f.type ∧
      (options.foldl apply f).model = f.model := by
  induction options generalizing f with
  | nil => exact ⟨rfl, rfl, rfl⟩
  | cons o options ih =>
    obtain ⟨hn, ht, hm⟩ := f.apply_keeps o
    rw [List.foldl_cons, ← hn, ← ht, ← hm]
    exact ih _

/-! ## One attribute each -/

section

variable (name : String) (type : FieldType) (options : List FieldOption)

theorem primaryKey_declare :
    (declare name type options).primaryKey = true ↔ .primaryKey ∈ options := by
  have h := flag_foldl_apply (·.primaryKey) [.primaryKey]
    (fun f o => by cases o <;> simp [apply]) (ofType name type) options
  exact h.trans (by simp [ofType])

theorem null_declare : (declare name type options).null = true ↔
    type.forcesNull = true ∨ .nullable ∈ options := by
  have h := flag_foldl_apply (·.null) [.nullable]
    (fun f o => by cases o <;> simp [apply]) (ofType name type) options
  exact h.trans (by simp [ofType])

theorem blank_declare : (declare name type options).blank = true ↔
    type.forcesBlank = true ∨ .blank ∈ options ∨ .autoNow ∈ options := by
  have h := flag_foldl_apply (·.blank) [.blank, .autoNow]
    (fun f o => by cases o <;> simp [apply]) (ofType name type) options
  exact h.trans (by simp [ofType])

theorem unique_declare : (declare name type options).unique = true ↔
    .unique ∈ options ∨ .primaryKey ∈ options := by
  have h := flag_foldl_apply (·.unique) [.unique, .primaryKey]
    (fun f o => by cases o <;> simp [apply]) (ofType name type) options
  exact h.trans (by simp [ofType])

/-- Fields are editable unless some option says that they are not. -/
theorem editable_declare : (declare name type options).editable = true ↔
    .notEditable ∉ options ∧ .autoNow ∉ options := by
  have h := flag_foldl_apply (fun f => !f.editable) [.notEditable, .autoNow]
    (fun f o => by cases o <;> simp [apply]) (ofType name type) options
  rw [← not_or, ← not_iff_not, not_not, Bool.not_eq_true, ← Bool.not_eq_true']
  exact h.trans (by simp [ofType])

theorem maxLength_declare : (declare name type options).maxLength =
    (options.filterMap FieldOption.maxLength?).getLast?.or type.defaultMaxLength :=
  value_foldl_apply (·.maxLength) FieldOption.maxLength? (fun f o => by cases o <;> rfl)
    (ofType name type) options

theorem default_declare :
    (declare name type options).default = (options.filterMap FieldOption.default?).getLast? := by
  have h := value_foldl_apply (·.default) FieldOption.default? (fun f o => by cases o <;> rfl)
    (ofType name type) options
  exact h.trans (Option.or_none ..)

theorem verboseName_declare : (declare name type options).verboseName =
    (options.filterMap FieldOption.verboseName?).getLast?.getD (Text.underscoresToSpaces name) := by
  have h := value_foldl_apply (fun f => some f.verboseName) FieldOption.verboseName?
    (fun f o => by cases o <;> rfl) (ofType name type) options
  rw [Option.or_some] at h
  exact Option.some.inj h

theorem helpText_declare : (declare name type options).helpText =
    (options.filterMap FieldOption.helpText?).getLast?.getD "" := by
  have h := value_foldl_apply (fun f => some f.helpText) FieldOption.helpText?
    (fun f o => by cases o <;> rfl) (ofType name type) options
  rw [Option.or_some] at h
  exact Option.some.inj h

end

/-- The choices given last are the first ones, and groups after them are added. -/
theorem flatChoices_declare_choices (name : String) (type : FieldType)
    {before after : List FieldOption} (chosen : List (Value × String))
    (h : ∀ other, .choices other ∉ after) :
    (declare name type (before ++ .choices chosen :: after)).flatChoices =
      chosen ++ after.flatMap FieldOption.addedChoices := by
  rw [declare, List.foldl_append, List.foldl_cons, flatChoices_foldl_apply h,
    flatChoices_apply_choices]

/-! ## All attributes -/

/-- What a field declared with a name, a type and options is. -/
structure FollowsOptions (name : String) (type : FieldType) (options : List FieldOption)
    (f : ModelField) : Prop where
  name_eq : f.name = name
  type_eq : f.type = type
  model_eq : f.model = none
  primaryKey_iff : f.primaryKey = true ↔ .primaryKey ∈ options
  unique_of_primaryKey : f.primaryKey = true → f.unique = true
  null_iff : f.null = true ↔ type.forcesNull = true ∨ .nullable ∈ options
  blank_iff : f.blank = true ↔ type.forcesBlank = true ∨ .blank ∈ options ∨ .autoNow ∈ options
  unique_iff : f.unique = true ↔ .unique ∈ options ∨ .primaryKey ∈ options
  editable_iff : f.editable = true ↔ .notEditable ∉ options ∧ .autoNow ∉ options
  maxLength_eq :
    f.maxLength = (options.filterMap FieldOption.maxLength?).getLast?.or type.defaultMaxLength
  default_eq : f.default = (options.filterMap FieldOption.default?).getLast?
  verboseName_eq : f.verboseName =
    (options.filterMap FieldOption.verboseName?).getLast?.getD (Text.underscoresToSpaces name)
  helpText_eq : f.helpText = (options.filterMap FieldOption.helpText?).getLast?.getD ""
  validators_eq : f.validators = options.filterMap FieldOption.validator?
  /-- The choices given last count, and what groups add to them from then on. -/
  flatChoices_of_choices : ∀ before chosen after, options = before ++ .choices chosen :: after →
    (∀ other, .choices other ∉ after) →
      f.flatChoices = chosen ++ after.flatMap FieldOption.addedChoices
  flatChoices_of_groups : (∀ chosen, .choices chosen ∉ options) →
    f.flatChoices = options.flatMap FieldOption.addedChoices

theorem followsOptions_declare (name : String) (type : FieldType) (options : List FieldOption) :
    FollowsOptions name type options (declare name type options) where
  name_eq := (foldl_apply_keeps (ofType name type) options).1
  type_eq := (foldl_apply_keeps (ofType name type) options).2.1
  model_eq := (foldl_apply_keeps (ofType name type) options).2.2
  primaryKey_iff := primaryKey_declare name type options
  unique_of_primaryKey h :=
    (unique_declare name type options).mpr (.inr ((primaryKey_declare name type options).mp h))
  null_iff := null_declare name type options
  blank_iff := blank_declare name type options
  unique_iff := unique_declare name type options
  editable_iff := editable_declare name type options
  maxLength_eq := maxLength_declare name type options
  default_eq := default_declare name type options
  verboseName_eq := verboseName_declare name type options
  helpText_eq := helpText_declare name type options
  validators_eq := validators_foldl_apply (ofType name type) options
  flatChoices_of_choices before chosen after he ha := by
    subst he
    exact flatChoices_declare_choices name type chosen ha
  flatChoices_of_groups h := flatChoices_foldl_apply h (ofType name type)

/-! ## Options that do not meet -/

/-- Whether two fields are the same in an attribute. -/
def AgreesOn (f g : ModelField) : FieldAttribute → Prop
  | .primaryKey => f.primaryKey = g.primaryKey
  | .null => f.null = g.null
  | .blank => f.blank = g.blank
  | .default => f.default = g.default
  | .unique => f.unique = g.unique
  | .maxLength => f.maxLength = g.maxLength
  | .helpText => f.helpText = g.helpText
  | .verboseName => f.verboseName = g.verboseName
  | .choices => f.choices = g.choices
  | .validators => f.validators = g.validators
  | .editable => f.editable = g.editable

theorem AgreesOn.refl (f : ModelField) (a : FieldAttribute) : f.AgreesOn f a := by
  cases a <;> rfl

theorem AgreesOn.symm (h : f.AgreesOn g a) : g.AgreesOn f a := by
  cases a <;> exact Eq.symm h

theorem AgreesOn.trans {k : ModelField} (h : f.AgreesOn g a) (h' : g.AgreesOn k a) :
    f.AgreesOn k a := by
  cases a <;> exact Eq.trans h h'

/-- Fields are the same if they have name, type and model in common and agree on all attributes. -/
theorem eq_of_agreesOn (hn : f.name = g.name) (ht : f.type = g.type) (hm : f.model = g.model)
    (h : ∀ a, f.AgreesOn g a) : f = g := by
  obtain ⟨_, _, _, _, _, _, _, _, _, _, _, _, _, _⟩ := f
  obtain ⟨_, _, _, _, _, _, _, _, _, _, _, _, _, _⟩ := g
  cases hn
  cases ht
  cases hm
  cases h .primaryKey
  cases h .null
  cases h .blank
  cases h .default
  cases h .unique
  cases h .maxLength
  cases h .helpText
  cases h .verboseName
  cases h .choices
  cases h .validators
  cases h .editable
  rfl

/-- An option leaves the attributes alone that it does not touch. -/
theorem agreesOn_apply {o : FieldOption} (h : a ∉ o.touched) (f : ModelField) :
    (f.apply o).AgreesOn f a := by
  cases o <;> cases a <;> first
    | rfl
    | exact absurd List.mem_cons_self h
    | exact absurd (List.mem_cons_of_mem _ List.mem_cons_self) h

/-- What an option makes of an attribute depends on that attribute only. -/
theorem AgreesOn.apply (h : f.AgreesOn g a) (o : FieldOption) :
    (f.apply o).AgreesOn (g.apply o) a := by
  cases o <;> cases a <;> first | exact h | rfl | exact congrArg (· ++ _) h

/-- For an attribute only the options count that touch it. -/
theorem agreesOn_foldl_touching (h : f.AgreesOn g a) (options : List FieldOption) :
    (options.foldl ModelField.apply f).AgreesOn
      ((touching a options).foldl ModelField.apply g) a := by
  induction options generalizing f g with
  | nil => exact h
  | cons o options ih =>
    rw [touching_cons]
    split
    · exact ih (h.apply o)
    · rename_i ho
      exact ih ((agreesOn_apply ho f).trans h)

/-- Options in another order come to the same if the order is kept for each attribute. -/
theorem foldl_apply_congr (h : ∀ a, touching a options = touching a options') (f : ModelField) :
    options.foldl apply f = options'.foldl apply f := by
  obtain ⟨hn, ht, hm⟩ := f.foldl_apply_keeps options
  obtain ⟨hn', ht', hm'⟩ := f.foldl_apply_keeps options'
  refine eq_of_agreesOn (hn.trans hn'.symm) (ht.trans ht'.symm) (hm.trans hm'.symm) fun a => ?_
  have hleft := agreesOn_foldl_touching (.refl f a) options
  have hright := agreesOn_foldl_touching (.refl f a) options'
  rw [h a] at hleft
  exact hleft.trans hright.symm

/-- Whatever options a field is declared with, in whatever order, all that it is can be told from
the list of them. Options in another order that keeps the order for each attribute declare the same
field; in particular neighbours that touch different attributes may change places. -/
theorem declare_closedForm (name : String) (type : FieldType) (options : List FieldOption) :
    FollowsOptions name type options (declare name type options) ∧
    (∀ options', (∀ a, touching a options = touching a options') →
      declare name type options = declare name type options') ∧
    ∀ before o o' after, o.touched.Disjoint o'.touched → options = before ++ o :: o' :: after →
      declare name type options = declare name type (before ++ o' :: o :: after) := by
  refine ⟨followsOptions_declare name type options,
    fun options' h => foldl_apply_congr h (ofType name type), fun before o o' after h he => ?_⟩
  subst he
  exact foldl_apply_congr (touching_swap h before after) (ofType name type)

/-- A group before the choices are replaced leaves nothing behind. -/
example : (declare "media" .char [.choiceGroup "Audio" [(.string "cd", "CD")],
    .choices [(.string "unknown", "Unknown")],
    .choiceGroup "Video" [(.string "vhs", "VHS Tape")]]).flatChoices =
      [(.string "unknown", "Unknown"), (.string "vhs", "VHS Tape")] :=
  rfl

end ModelField

end FieldMap
