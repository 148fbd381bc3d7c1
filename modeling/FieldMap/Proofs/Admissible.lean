import FieldMap.Proofs.Building

/-!
# Which arguments built fields have

The arguments that a serializer field is built with fit together and fit its class
(`SerializerField.Admissible`): a field that can only be read is told nothing of written values,
choices stand alone, and two arguments are kept for the classes that know them. Each way of building
a field gives an admissible one (`Builds.admissible`) and making it read only keeps it so
(`Admissible.makeReadOnly`), hence every field of a selection is admissible
(`admissible_of_mem_buildFields`).
-/

namespace FieldMap

namespace Arguments

theorem has_makeReadOnly_iff {a : Arguments} {key : Key} :
    a.makeReadOnly.has key = true ↔
      (key = .readOnly ∨ a.has key = true) ∧ key ∉ writingKeys := by
  have hset : ({ a with readOnly := some true } : Arguments).has key =
      (key == .readOnly || a.has key) := by
    cases key <;> rfl
  rw [makeReadOnly, has_filter, hset]
  simp only [Bool.and_eq_true, Bool.or_eq_true, beq_iff_eq, Bool.not_eq_true', List.contains_eq_mem,
    decide_eq_false_iff_not]

/-- Making arguments read only adds no argument but that one. -/
theorem has_of_has_makeReadOnly {a : Arguments} {key : Key} (h : a.makeReadOnly.has key = true)
    (hk : key ≠ .readOnly) : a.has key = true :=
  (has_makeReadOnly_iff.mp h).1.resolve_left hk

end Arguments

namespace SerializerField

open Arguments (Key choiceKeys)

/-- The arguments of a field fit together and fit its class, `source` being the model field that
its name selects. -/
structure Admissible (source : Option ModelField) (field : SerializerField) : Prop where
  /-- That a field is read only is said or left out, never denied. -/
  readOnly : field.arguments.readOnly = none ∨ field.arguments.readOnly = some true
  /-- A field that can only be read is told nothing of written values. -/
  reading : field.arguments.readOnly = some true → ∀ key ∈ [Key.required, .allowNull, .allowBlank,
    .minLength, .maxLength, .minValue, .maxValue, .validators, .queryset],
    field.arguments.has key = false
  /-- Choices are those of the model field, in order, and there is at least one. -/
  options : ∀ given, field.arguments.choices = some given →
    given ≠ [] ∧ ∃ f, source = some f ∧ given = f.flatChoices
  /-- Only fields of the class for choices have choices. -/
  choosing : field.arguments.has .choices = true → field.serializerClass = .choice
  /-- Choices come with the arguments that fields with choices know. -/
  known : field.arguments.has .choices = true →
    ∀ key, field.arguments.has key = true → key ∈ choiceKeys
  /-- Choices come without bounds, validators and digits. -/
  alone : field.arguments.has .choices = true → ∀ key ∈ [Key.maxLength, .minLength, .maxValue,
    .minValue, .validators, .maxDigits, .decimalPlaces], field.arguments.has key = false
  /-- The model field is given only to the class that stands for any of them. -/
  modelField : field.arguments.has .modelField = true →
    isSubclass field.serializerClass SerializerClass.model = true
  /-- Blanks are spoken of only to classes of texts and of choices. -/
  allowBlank : field.arguments.has .allowBlank = true →
    isSubclass field.serializerClass SerializerClass.char = true ∨
      isSubclass field.serializerClass SerializerClass.choice = true

/-- An admissible field made read only is admissible. -/
theorem Admissible.makeReadOnly {source : Option ModelField} {field : SerializerField}
    (h : field.Admissible source) :
    Admissible source { field with arguments := field.arguments.makeReadOnly } where
  readOnly := .inr (by rw [Arguments.makeReadOnly_eq])
  reading := by
    intro _ key hk
    have hw : key ∈ Arguments.writingKeys := by
      revert hk
      cases key <;> decide
    exact Bool.eq_false_iff.mpr fun h => (Arguments.has_makeReadOnly_iff.mp h).2 hw
  options := by
    intro given hg
    rw [Arguments.makeReadOnly_eq] at hg
    exact h.options given hg
  choosing := fun hc => h.choosing (Arguments.has_of_has_makeReadOnly hc (by decide))
  known := by
    intro hc key hk
    have hc := Arguments.has_of_has_makeReadOnly hc (by decide)
    rcases (Arguments.has_makeReadOnly_iff.mp hk).1 with rfl | hk
    · decide
    · exact h.known hc key hk
  alone := by
    intro hc key hk
    have hc := Arguments.has_of_has_makeReadOnly hc (by decide)
    have hne : key ≠ .readOnly := by
      rintro rfl
      exact absurd hk (by decide)
    exact Bool.eq_false_iff.mpr fun hr =>
      absurd (Arguments.has_of_has_makeReadOnly hr hne) (Bool.eq_false_iff.mp (h.alone hc key hk))
  modelField := fun hm => h.modelField (Arguments.has_of_has_makeReadOnly hm (by decide))
  allowBlank := fun hb => absurd (by decide) (Arguments.has_makeReadOnly_iff.mp hb).2

/-- Without choices nothing is asked of them. -/
theorem Admissible.of_noChoices {source : Option ModelField} {field : SerializerField}
    (hc : field.arguments.choices = none)
    (readOnly : field.arguments.readOnly = none ∨ field.arguments.readOnly = some true ∧
      ∀ key ∈ [Key.required, .allowNull, .allowBlank, .minLength, .maxLength, .minValue, .maxValue,
        .validators, .queryset], field.arguments.has key = false)
    (modelField : field.arguments.has .modelField = true →
      isSubclass field.serializerClass SerializerClass.model = true)
    (allowBlank : field.arguments.has .allowBlank = true →
      isSubclass field.serializerClass SerializerClass.char = true ∨
        isSubclass field.serializerClass SerializerClass.choice = true) :
    Admissible source field := by
  have hh : field.arguments.has .choices ≠ true := by
    show field.arguments.choices.isSome ≠ true
    rw [hc]
    decide
  refine ⟨readOnly.imp_right And.left, fun hr => ?_, fun given hg => ?_, fun h => absurd h hh,
    fun h => absurd h hh, fun h => absurd h hh, modelField, allowBlank⟩
  · rcases readOnly with hn | ⟨-, hk⟩
    · rw [hn] at hr
      cases hr
    · exact hk
  · rw [hc] at hg
    cases hg

/-- Without choices, a model field and blanks nothing is asked of the class. -/
theorem Admissible.of_few {source : Option ModelField} {field : SerializerField}
    (hc : field.arguments.choices = none) (hm : field.arguments.has .modelField = false)
    (hb : field.arguments.has .allowBlank = false)
    (readOnly : field.arguments.readOnly = none ∨ field.arguments.readOnly = some true ∧
      ∀ key ∈ [Key.required, .allowNull, .allowBlank, .minLength, .maxLength, .minValue, .maxValue,
        .validators, .queryset], field.arguments.has key = false) :
    Admissible source field :=
  .of_noChoices hc readOnly (fun h => absurd h (Bool.eq_false_iff.mp hm))
    (fun h => absurd h (Bool.eq_false_iff.mp hb))

end SerializerField

namespace FieldBuilder

open Arguments (Key)

variable {b : FieldBuilder} {m : Model} {depth : Nat} {name : String} {field : SerializerField}

/-- Fitting arguments to a class adds none. -/
theorem has_of_has_fitted {a : Arguments} {c : SerializerClass} {key : Key}
    (h : (a.fitted c).has key = true) : a.has key = true := by
  cases key with
  | modelField | allowBlank =>
    simp only [Arguments.fitted, Arguments.has] at h ⊢
    split at h <;> [exact h; cases h]
  | _ => exact h

theorem fitted_modelField {a : Arguments} {c : SerializerClass}
    (h : (a.fitted c).has .modelField = true) : isSubclass c SerializerClass.model = true := by
  by_contra hc
  rw [Bool.not_eq_true] at hc
  simp only [Arguments.fitted, Arguments.has, hc, Bool.false_eq_true, if_false,
    Option.isSome_none] at h

theorem fitted_allowBlank {a : Arguments} {c : SerializerClass}
    (h : (a.fitted c).has .allowBlank = true) :
    isSubclass c SerializerClass.char = true ∨ isSubclass c SerializerClass.choice = true := by
  rw [← Bool.or_eq_true]
  by_contra hc
  rw [Bool.not_eq_true] at hc
  simp only [Arguments.fitted, Arguments.has, hc, Bool.false_eq_true, if_false,
    Option.isSome_none] at h

/-- However the field of a name is built, its arguments fit. -/
theorem Builds.admissible (h : b.Builds m depth name field) :
    field.Admissible (resolve? m name) := by
  cases h with
  | nested hf hr hd =>
    refine .of_few rfl rfl rfl (.inr ⟨rfl, ?_⟩)
    simp [Arguments.has, buildNestedField, SerializerField.ofNested, Arguments.ofNestedRelation]
  | @related f r hf hr hd =>
    cases hw : Arguments.isFixedRelation r with
    | true =>
      rw [buildRelationalField, Arguments.ofRelation_of_isFixed hw]
      refine .of_few rfl rfl rfl (.inr ⟨rfl, ?_⟩)
      simp [Arguments.has]
    | false =>
      rw [buildRelationalField, Arguments.ofRelation_of_field hw (Relation.field_of_forward? hr)]
      exact .of_few rfl rfl rfl (.inl rfl)
  | fixed hf hr hc hw =>
    refine .of_noChoices rfl (.inr ⟨rfl, ?_⟩) fitted_modelField fitted_allowBlank
    simp [Arguments.has, Arguments.fitted, Arguments.describing]
  | @choice f hf hr hw ho =>
    refine {
      readOnly := .inl rfl
      reading := fun hr => ?_
      options := fun given hg => ?_
      choosing := fun _ => rfl
      known := fun _ key hk => ?_
      alone := fun _ => ?_
      modelField := fitted_modelField
      allowBlank := fitted_allowBlank }
    · cases hr
    · cases hg
      exact ⟨ho, f, hf, rfl⟩
    · have hk := has_of_has_fitted hk
      rw [Arguments.has_filter, Bool.and_eq_true] at hk
      exact List.contains_iff_mem.mp hk.2
    · simp [Arguments.has, Arguments.fitted, Arguments.filter, Arguments.choiceKeys,
        Arguments.withPresence, Arguments.describing]
  | bounded hf hr hc hw ho =>
    exact .of_noChoices rfl (.inl rfl) fitted_modelField fitted_allowBlank
  | link hf hn => exact .of_few rfl rfl rfl (.inl rfl)

/-- The arguments of every field of a selection fit together and fit its class. -/
theorem admissible_of_mem_buildFields {s : Selection} {built : List (String × SerializerField)}
    (h : b.buildFields m s = .ok built) (hx : (name, field) ∈ built) :
    field.Admissible (resolve? m name) :=
  forall_mem_buildFields (P := fun name field => field.Admissible (resolve? m name)) h
    (fun _ _ hb => hb.admissible) (fun _ _ ha => ha.makeReadOnly) name field hx

/-- A field with choices that a selection makes read only. -/
theorem admissible_article_status : ∃ (built : List (String × SerializerField))
    (field : SerializerField),
    FieldBuilder.hyperlinked.buildFields .article { depth := 1, readOnly := ["status"] } =
      .ok built ∧
    ("status", field) ∈ built ∧ field.Admissible (resolve? .article "status") :=
  ⟨_, _, rfl, .tail _ (.head _),
    admissible_of_mem_buildFields (b := .hyperlinked) (m := .article)
      (s := { depth := 1, readOnly := ["status"] }) rfl (.tail _ (.head _))⟩

end FieldBuilder

end FieldMap
