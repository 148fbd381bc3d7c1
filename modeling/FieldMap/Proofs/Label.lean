import FieldMap.Proofs.Building

/-!
# Labels of built fields

A serializer field is given a label only if the one that would be read off its name is another
(`ModelField.ne_of_labelFor`), and then shows the same label as if it were always given one
(`ModelField.getD_labelFor`). Neither choices nor making a field read only touch the label, so a
built field has the label argument that its model field asks for (`Builds.label`,
`label_of_mem_buildFields`).
-/

namespace FieldMap

namespace ModelField

/-- The label that a field shows: its own, or if it has none the one read off its name. -/
theorem getD_labelFor (f : ModelField) (name : String) :
    (f.labelFor name).getD (Text.labelOfName name) =
      if f.verboseName = "" then Text.labelOfName name
      else Text.capitalizeFirst f.verboseName := by
  by_cases hv : f.verboseName = ""
  · rw [if_pos hv, labelFor, hv]
    rfl
  rw [if_neg hv, labelFor]
  by_cases hl : Text.capitalizeFirst f.verboseName = Text.labelOfName name
  · have hn : f.needsLabel name = false := by rw [needsLabel, hl, bne_self_eq_false]
    rw [hn, Bool.and_false, if_neg Bool.false_ne_true, Option.getD_none, hl]
  · have hn : f.needsLabel name = true := bne_iff_ne.mpr hl
    rw [hn, bne_iff_ne.mpr hv, Bool.and_true, if_pos rfl, Option.getD_some]

/-- A label is given only if it differs from the one read off the name. -/
theorem ne_of_labelFor {f : ModelField} {name label : String} (h : f.labelFor name = some label) :
    label ≠ Text.labelOfName name := by
  rw [labelFor] at h
  split at h <;> cases h
  rename_i hn
  exact bne_iff_ne.mp (Bool.and_eq_true_iff.mp hn).2

end ModelField

namespace FieldBuilder

variable {b : FieldBuilder} {m : Model} {depth : Nat} {name : String} {field : SerializerField}

/-- The label argument is the one that the model field asks for. Nested serializers and links to
the object itself have none. -/
theorem Builds.label (h : b.Builds m depth name field) :
    field.arguments.label =
      if field.nested.isSome then none else (resolve? m name).bind (·.labelFor name) := by
  cases h with
  | nested hf hr hd => rfl
  | @related f r hf hr hd =>
    rw [hf, ← Relation.field_of_forward? hr]
    exact Arguments.label_ofRelation
  | fixed hf hr hc hw =>
    rw [hf]
    rfl
  | @choice f hf hr hw ho =>
    rw [hf]
    exact Arguments.filter_true (f.labelFor name)
  | bounded hf hr hc hw ho =>
    rw [hf]
    rfl
  | link hf hn =>
    rw [hf]
    rfl

/-- Whatever a selection makes of a field, it shows the label of its model field, and is given a
label only if the one read off its name would be another. -/
theorem label_of_mem_buildFields {s : Selection} {built : List (String × SerializerField)}
    (h : b.buildFields m s = .ok built) (hx : (name, field) ∈ built) (value : Json)
    (errors : List String) :
    let shown := BoundField.label ⟨name, field, value, errors⟩
    (∀ f, resolve? m name = some f → field.nested = none →
      shown = if f.verboseName = "" then Text.labelOfName name
        else Text.capitalizeFirst f.verboseName) ∧
    (∀ label, field.arguments.label = some label → label ≠ Text.labelOfName name) ∧
    (field.nested.isSome = true ∨ resolve? m name = none → shown = Text.labelOfName name) := by
  have hl : field.arguments.label =
      if field.nested.isSome then none else (resolve? m name).bind (·.labelFor name) := by
    refine forall_mem_buildFields (P := fun name field => field.arguments.label =
      if field.nested.isSome then none else (resolve? m name).bind (·.labelFor name)) h
      (fun _ _ hb => hb.label) (fun name field hf => ?_) name field hx
    rw [Arguments.makeReadOnly_eq]
    exact hf
  refine ⟨fun f hf hn => ?_, fun label hlabel => ?_, fun hn => ?_⟩
  · rw [hn, hf] at hl
    rw [BoundField.label, ← f.getD_labelFor, hl]
    rfl
  · rw [hlabel] at hl
    split at hl
    · cases hl
    · obtain ⟨f, -, hf⟩ := Option.bind_eq_some_iff.mp hl.symm
      exact ModelField.ne_of_labelFor hf
  · have hnone : field.arguments.label = none := by
      rcases hn with hn | hn
      · rw [hl, if_pos hn]
      · rw [hl, hn, Option.bind_none, ite_self]
    rw [BoundField.label, hnone]
    rfl

/-- A relation with a name of its own that a selection makes read only. -/
theorem label_article_reporter : ∃ (built : List (String × SerializerField))
    (field : SerializerField),
    FieldBuilder.default.buildFields .article
      { fields := .only ["topics", "reporter"], readOnly := ["reporter"] } = .ok built ∧
    ("reporter", field) ∈ built ∧
    BoundField.label { name := "reporter", field := field } = "The author" := by
  refine ⟨_, _, rfl, .tail _ (.head _), ?_⟩
  refine ((label_of_mem_buildFields (b := .default) (m := .article)
    (s := { fields := .only ["topics", "reporter"], readOnly := ["reporter"] })
    rfl (.tail _ (.head _)) .null []).1 _ rfl rfl).trans ?_
  decide

end FieldBuilder

end FieldMap
