import FieldMap.Proofs.NotEditable
import FieldMap.Proofs.Registering

/-!
# The rules of standard fields

`FieldBuilder.FollowsRules` says, for the class and for each argument of a serializer field that
stands for a model field, when it is there and what it then is; nothing is said of labels, bounds
and validators. What is built follows the rules in each of the three ways of building it, and groups
of choices that contain no options make no difference to it (`buildStandardField_followsRules`).
-/

namespace FieldMap

/-- The value that a table has for a class, or for the nearest of its ancestors that has one. -/
def ClassTable.IsNearest {Class Value : Type} [DecidableEq Class] [ClassHierarchy Class]
    (table : ClassTable Class Value) (c : Class) (value : Value) : Prop :=
  ∃ nearer k farther, ClassHierarchy.lineage c = nearer ++ k :: farther ∧
    (∀ a ∈ nearer, table.get? a = none) ∧ table.get? k = some value

namespace ModelField

/-- Whether the field is never written: it sets itself, or is not editable. -/
def IsReadOnly (f : ModelField) : Prop :=
  f.isInstance .auto = true ∨ f.editable = false

/-- Whether what is written to the field is one of some options. -/
def OffersChoices (f : ModelField) : Prop :=
  ¬f.IsReadOnly ∧ f.flatChoices ≠ []

/-- The field without those groups of choices that contain no options. -/
def withoutEmptyGroups (f : ModelField) : ModelField :=
  { f with choices := f.choices.filter (!·.options.isEmpty) }

end ModelField

namespace FieldBuilder

/-- The rules by which the serializer field of a model field has its class and its arguments. -/
structure FollowsRules (b : FieldBuilder) (f : ModelField) (field : SerializerField) : Prop where
  choiceClass : f.OffersChoices → field.serializerClass = .choice
  mappedClass : ¬f.OffersChoices → b.mapping.IsNearest f.fieldClass field.serializerClass
  nested : field.nested = none
  /-- Nothing is said of relations. -/
  related : field.arguments.queryset = none ∧ field.arguments.viewName = none ∧
    field.arguments.many = none
  modelField : ∀ g, field.arguments.modelField = some g ↔
    g = f ∧ ¬f.OffersChoices ∧ isSubclass field.serializerClass SerializerClass.model = true
  helpText : ∀ text, field.arguments.helpText = some text ↔ text = f.helpText ∧ f.helpText ≠ ""
  maxDigits : ∀ digits, field.arguments.maxDigits = some digits ↔
    ¬f.OffersChoices ∧ ∃ places, f.type = .decimal digits places
  decimalPlaces : ∀ places, field.arguments.decimalPlaces = some places ↔
    ¬f.OffersChoices ∧ ∃ digits, f.type = .decimal digits places
  style : ∀ style, field.arguments.style = some style ↔
    style = ⟨"textarea.html", none⟩ ∧ f.type = .text
  readOnly : ∀ value, field.arguments.readOnly = some value ↔ value = true ∧ f.IsReadOnly
  required : ∀ value, field.arguments.required = some value ↔
    value = false ∧ ¬f.IsReadOnly ∧ (f.default.isSome = true ∨ f.blank = true ∨ f.null = true)
  allowNull : ∀ value, field.arguments.allowNull = some value ↔
    value = true ∧ ¬f.IsReadOnly ∧ f.null = true ∧ f.type ≠ .nullBoolean
  allowBlank : ∀ value, field.arguments.allowBlank = some value ↔
    value = true ∧ ¬f.IsReadOnly ∧ f.blank = true ∧
      (isSubclass field.serializerClass SerializerClass.char = true ∨
        isSubclass field.serializerClass SerializerClass.choice = true)
  choices : ∀ options, field.arguments.choices = some options ↔
    options = f.flatChoices ∧ f.OffersChoices

end FieldBuilder

/-! ## Arguments that are there on a condition -/

theorem onlyIf_eq_some_iff {α : Type} {condition : Bool} {a x : α} :
    onlyIf condition a = some x ↔ x = a ∧ condition = true := by
  cases condition <;> simp [onlyIf, eq_comm]

theorem nonEmpty_eq_some_iff {s text : String} : nonEmpty s = some text ↔ text = s ∧ s ≠ "" := by
  by_cases h : s = "" <;> simp [nonEmpty, h, eq_comm]

namespace ModelField

variable {f : ModelField}

theorem isFixed_eq_true_iff : f.isFixed = true ↔ f.IsReadOnly := by
  rw [isFixed, IsReadOnly, Bool.or_eq_true, Bool.not_eq_true']

theorem isFixed_eq_false_iff : f.isFixed = false ↔ ¬f.IsReadOnly := by
  rw [← isFixed_eq_true_iff, Bool.not_eq_true]

theorem maxDigits_eq_some_iff {digits : Nat} :
    f.maxDigits = some digits ↔ ∃ places, f.type = .decimal digits places := by
  rw [maxDigits]
  cases f.type <;> simp

theorem decimalPlaces_eq_some_iff {places : Nat} :
    f.decimalPlaces = some places ↔ ∃ digits, f.type = .decimal digits places := by
  rw [decimalPlaces]
  cases f.type <;> simp

theorem isInstance_text_iff : f.isInstance .text = true ↔ f.type = .text := by
  rw [isInstance, fieldClass]
  cases f.type <;> simp <;> rfl

theorem isInstance_nullBoolean_iff : f.isInstance .nullBoolean = true ↔ f.type = .nullBoolean := by
  rw [isInstance, fieldClass]
  cases f.type <;> simp <;> rfl

end ModelField

namespace Arguments

variable {a : Arguments} {f : ModelField} {c : SerializerClass}

theorem modelField_fitted_of_not_offersChoices {g : ModelField} (ha : a.modelField = some f)
    (ho : ¬f.OffersChoices) : (a.fitted c).modelField = some g ↔
      g = f ∧ ¬f.OffersChoices ∧ isSubclass c SerializerClass.model = true := by
  rw [and_iff_right ho, fitted, ha]
  cases isSubclass c SerializerClass.model <;> simp [eq_comm]

theorem allowBlank_fitted_eq_some_iff {value : Bool} : (a.fitted c).allowBlank = some value ↔
    a.allowBlank = some value ∧ (isSubclass c SerializerClass.char = true ∨
      isSubclass c SerializerClass.choice = true) := by
  rw [fitted, ← Bool.or_eq_true]
  cases isSubclass c SerializerClass.char || isSubclass c SerializerClass.choice <;> simp

theorem style_describing_eq_some_iff (name : String) {style : Style} :
    (describing name f).style = some style ↔ style = ⟨"textarea.html", none⟩ ∧ f.type = .text := by
  rw [describing, onlyIf_eq_some_iff, ModelField.isInstance_text_iff]

theorem required_withPresence_eq_some_iff (a : Arguments) (h : ¬f.IsReadOnly) {value : Bool} :
    (a.withPresence f).required = some value ↔ value = false ∧ ¬f.IsReadOnly ∧
      (f.default.isSome = true ∨ f.blank = true ∨ f.null = true) := by
  rw [and_iff_right h, withPresence, onlyIf_eq_some_iff, Bool.or_eq_true, Bool.or_eq_true,
    or_assoc]
  rfl

theorem allowNull_withPresence_eq_some_iff (a : Arguments) (h : ¬f.IsReadOnly) {value : Bool} :
    (a.withPresence f).allowNull = some value ↔
      value = true ∧ ¬f.IsReadOnly ∧ f.null = true ∧ f.type ≠ .nullBoolean := by
  rw [and_iff_right h, withPresence, onlyIf_eq_some_iff, Bool.and_eq_true, Bool.not_eq_true',
    ← Bool.not_eq_true, ModelField.isInstance_nullBoolean_iff]

/-- Whether blanks are spoken of depends on the class too. -/
theorem allowBlank_fitted_of_withPresence (a : Arguments) {a' : Arguments} (h : ¬f.IsReadOnly)
    (ha : a'.allowBlank = (a.withPresence f).allowBlank) {value : Bool} :
    (a'.fitted c).allowBlank = some value ↔ value = true ∧ ¬f.IsReadOnly ∧ f.blank = true ∧
      (isSubclass c SerializerClass.char = true ∨
        isSubclass c SerializerClass.choice = true) := by
  rw [allowBlank_fitted_eq_some_iff, ha, and_iff_right h, withPresence, onlyIf_eq_some_iff,
    and_assoc]

end Arguments

/-! ## Each way of building a standard field -/

namespace FieldBuilder

variable {b : FieldBuilder} {name : String} {f : ModelField} {c : SerializerClass}

theorem isNearest_of_findFor (hc : b.mapping.findFor f = .ok c) :
    b.mapping.IsNearest f.fieldClass c := by
  obtain ⟨nearer, k, farther, hl, hk, hn⟩ :=
    List.findSome?_eq_some_iff.mp (ClassTable.find_eq_ok_iff.mp hc)
  exact ⟨nearer, k, farther, hl, hn, hk⟩

open ModelField Arguments

theorem followsRules_of_isFixed (hc : b.mapping.findFor f = .ok c) (hw : f.isFixed = true) :
    b.FollowsRules f ⟨c, ({ Arguments.describing name f with readOnly := some true } :
      Arguments).fitted c, none⟩ := by
  have hread : f.IsReadOnly := isFixed_eq_true_iff.mp hw
  have hoffers : ¬f.OffersChoices := fun h => h.1 hread
  exact {
    choiceClass := fun h => absurd h hoffers
    mappedClass := fun _ => isNearest_of_findFor hc
    nested := rfl
    related := ⟨rfl, rfl, rfl⟩
    modelField := fun _ => modelField_fitted_of_not_offersChoices rfl hoffers
    helpText := fun _ => nonEmpty_eq_some_iff
    maxDigits := fun _ => maxDigits_eq_some_iff.trans (and_iff_right hoffers).symm
    decimalPlaces := fun _ => decimalPlaces_eq_some_iff.trans (and_iff_right hoffers).symm
    style := fun _ => style_describing_eq_some_iff name
    readOnly := fun _ => by
      rw [and_iff_left hread, eq_comm]
      exact Option.some_inj
    required := fun _ => iff_of_false nofun fun h => h.2.1 hread
    allowNull := fun _ => iff_of_false nofun fun h => h.2.1 hread
    allowBlank := fun _ => by
      rw [allowBlank_fitted_eq_some_iff]
      exact iff_of_false (fun h => nomatch h.1) fun h => h.2.1 hread
    choices := fun _ => iff_of_false nofun fun h => hoffers h.2 }

theorem followsRules_of_choices (hw : f.isFixed = false) (ho : f.flatChoices ≠ []) :
    b.FollowsRules f ⟨.choice, (({ (Arguments.describing name f).withPresence f with
      choices := some f.flatChoices } : Arguments).filter
        (Arguments.choiceKeys.contains ·)).fitted .choice, none⟩ := by
  have hread : ¬f.IsReadOnly := isFixed_eq_false_iff.mp hw
  have hoffers : f.OffersChoices := ⟨hread, ho⟩
  rw [filter_choiceKeys]
  exact {
    choiceClass := fun _ => rfl
    mappedClass := fun h => absurd hoffers h
    nested := rfl
    related := ⟨rfl, rfl, rfl⟩
    modelField := fun _ => iff_of_false nofun fun h => h.2.1 hoffers
    helpText := fun _ => nonEmpty_eq_some_iff
    maxDigits := fun _ => iff_of_false nofun fun h => h.1 hoffers
    decimalPlaces := fun _ => iff_of_false nofun fun h => h.1 hoffers
    style := fun _ => style_describing_eq_some_iff name
    readOnly := fun _ => iff_of_false nofun fun h => hread h.2
    required := fun _ => required_withPresence_eq_some_iff (describing name f) hread
    allowNull := fun _ => allowNull_withPresence_eq_some_iff (describing name f) hread
    allowBlank := fun _ => allowBlank_fitted_of_withPresence (describing name f) hread rfl
    choices := fun _ => by
      rw [and_iff_left hoffers, eq_comm]
      exact Option.some_inj }

theorem followsRules_of_noChoices (hc : b.mapping.findFor f = .ok c) (hw : f.isFixed = false)
    (ho : f.flatChoices = []) :
    b.FollowsRules f ⟨c, (((Arguments.describing name f).withPresence f).withBounds f).fitted c,
      none⟩ := by
  have hread : ¬f.IsReadOnly := isFixed_eq_false_iff.mp hw
  have hoffers : ¬f.OffersChoices := fun h => h.2 ho
  exact {
    choiceClass := fun h => absurd h hoffers
    mappedClass := fun _ => isNearest_of_findFor hc
    nested := rfl
    related := ⟨rfl, rfl, rfl⟩
    modelField := fun _ => modelField_fitted_of_not_offersChoices rfl hoffers
    helpText := fun _ => nonEmpty_eq_some_iff
    maxDigits := fun _ => maxDigits_eq_some_iff.trans (and_iff_right hoffers).symm
    decimalPlaces := fun _ => decimalPlaces_eq_some_iff.trans (and_iff_right hoffers).symm
    style := fun _ => style_describing_eq_some_iff name
    readOnly := fun _ => iff_of_false nofun fun h => hread h.2
    required := fun _ => required_withPresence_eq_some_iff (describing name f) hread
    allowNull := fun _ => allowNull_withPresence_eq_some_iff (describing name f) hread
    allowBlank := fun _ => allowBlank_fitted_of_withPresence (describing name f) hread rfl
    choices := fun _ => iff_of_false nofun fun h => hoffers h.2 }

end FieldBuilder

/-! ## Groups without options -/

namespace ModelField

variable {f : ModelField}

theorem flatChoices_withoutEmptyGroups (f : ModelField) :
    f.withoutEmptyGroups.flatChoices = f.flatChoices := by
  show (f.choices.filter (!·.options.isEmpty)).flatMap Choice.options =
    f.choices.flatMap Choice.options
  induction f.choices with
  | nil => rfl
  | cons entry entries ih =>
    simp only [List.filter_cons, List.flatMap_cons, ← ih]
    -- An entry that is dropped has no options to miss.
    cases ho : entry.options with
    | nil => rfl
    | cons option options =>
      show List.flatMap Choice.options (entry :: _) = _
      rw [List.flatMap_cons, ho]

theorem not_offersChoices (h : ∀ entry ∈ f.choices, entry.options = []) : ¬f.OffersChoices :=
  fun ho => ho.2 (List.flatMap_eq_nil_iff.mpr h)

end ModelField

namespace FieldBuilder

variable {b : FieldBuilder} {name : String} {f : ModelField} {field : SerializerField}

/-- The groups without options show only in the model field that the arguments may hold. -/
theorem buildStandardField_withoutEmptyGroups (h : b.buildStandardField name f = .ok field) :
    b.buildStandardField name f.withoutEmptyGroups = .ok { field with
      arguments := field.arguments.speakingOf f.withoutEmptyGroups } := by
  obtain ⟨c, hc⟩ := b.exists_findFor f
  have hoptions : f.withoutEmptyGroups.flatChoices = f.flatChoices :=
    f.flatChoices_withoutEmptyGroups
  -- `hc` and `hw` speak of the type and of `editable`, which both fields share.
  cases hw : f.isFixed with
  | true =>
    cases (buildStandardField_of_isFixed hc hw).symm.trans h
    rw [Arguments.speakingOf_fitted]
    exact buildStandardField_of_isFixed (f := f.withoutEmptyGroups) hc hw
  | false =>
    by_cases ho : f.flatChoices = []
    · cases (buildStandardField_of_noChoices hc hw ho).symm.trans h
      rw [Arguments.speakingOf_fitted]
      exact buildStandardField_of_noChoices (f := f.withoutEmptyGroups) hc hw (hoptions.trans ho)
    · cases (buildStandardField_of_choices hw ho).symm.trans h
      have ho' : f.withoutEmptyGroups.flatChoices ≠ [] := hoptions.symm ▸ ho
      rw [Arguments.speakingOf_fitted,
        buildStandardField_of_choices (f := f.withoutEmptyGroups) hw ho', hoptions,
        Arguments.filter_choiceKeys, Arguments.filter_choiceKeys]
      rfl

theorem exists_followsRules (b : FieldBuilder) (name : String) (f : ModelField) :
    ∃ field, b.buildStandardField name f = .ok field ∧ b.FollowsRules f field := by
  obtain ⟨c, hc⟩ := b.exists_findFor f
  cases hw : f.isFixed with
  | true => exact ⟨_, buildStandardField_of_isFixed hc hw, followsRules_of_isFixed hc hw⟩
  | false =>
    by_cases ho : f.flatChoices = []
    · exact ⟨_, buildStandardField_of_noChoices hc hw ho, followsRules_of_noChoices hc hw ho⟩
    · exact ⟨_, buildStandardField_of_choices hw ho, followsRules_of_choices hw ho⟩

theorem FollowsRules.agreeBut (h : b.FollowsRules f field) (g : ModelField) :
    AgreeBut f g field { field with arguments := field.arguments.speakingOf g } := by
  refine agreeBut_speakingOf g ?_
  cases hm : field.arguments.modelField with
  | none => exact .inl rfl
  | some f' => exact .inr (congrArg some ((h.modelField f').mp hm).1)

/-- A standard field has a serializer field, which follows the rules. Groups without options are no
choices: without them the model field has the same serializer field. -/
theorem buildStandardField_followsRules (b : FieldBuilder) (name : String) (f : ModelField) :
    ∃ field pruned, b.buildStandardField name f = .ok field ∧ b.FollowsRules f field ∧
      ((∀ entry ∈ f.choices, entry.options = []) → ¬f.OffersChoices) ∧
      b.buildStandardField name f.withoutEmptyGroups = .ok pruned ∧
      AgreeBut f f.withoutEmptyGroups field pruned := by
  obtain ⟨field, hb, hrules⟩ := b.exists_followsRules name f
  exact ⟨field, _, hb, hrules, ModelField.not_offersChoices,
    buildStandardField_withoutEmptyGroups hb, hrules.agreeBut _⟩

example : (default : FieldBuilder).buildStandardField "status"
    (.declare "status" .char [.choiceGroup "Past" []]) =
      .ok ⟨.char, {}, none⟩ := rfl

end FieldBuilder

end FieldMap
