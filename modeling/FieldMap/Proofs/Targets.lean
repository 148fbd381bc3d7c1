import FieldMap.Model.Relation
import FieldMap.Proofs.ModelLabels

/-!
# Targets of relations

The target of a relation is a label, which names the same model wherever the relation is declared,
or it is told from the model that declares it: `self`, or a name within the same application
(`resolveTarget_of_isLabel`, `resolveTarget_self`, `resolveTarget_of_relative`). What is found has a
label of its own that can be read if the target was a label or a plain name
(`hasPlainNames_resolveTarget_iff`). A relation to that label is then one to the same model,
independently of where it is declared (`Relation.forward?_canonical`).
-/

namespace FieldMap

open ModelRef (IsLabel IsPlain)

variable {owner : ModelRef} {target : String}

/-! ## Relations as types -/

namespace FieldType

/-- The target of a relation. -/
def target? : FieldType → Option String
  | .foreignKey target .. | .oneToOne target .. | .manyToMany target .. => some target
  | _ => none

/-- The same relation to another target. -/
def withTarget (t : FieldType) (target : String) : FieldType :=
  match t with
  | .foreignKey _ onDelete relatedName => .foreignKey target onDelete relatedName
  | .oneToOne _ onDelete relatedName => .oneToOne target onDelete relatedName
  | .manyToMany _ through relatedName => .manyToMany target through relatedName
  | t => t

theorem target?_withTarget {t : FieldType} (h : t.target? = some target) (other : String) :
    (t.withTarget other).target? = some other := by
  cases t <;> first | rfl | cases h

end FieldType

/-- The fields whose types have a target declare relations to what it names for them. -/
theorem Relation.exists_forward? {f : ModelField} (h : f.type.target? = some target) :
    ∃ r, forward? f = some r ∧ r.related = resolveTarget f.model target := by
  unfold forward?
  cases ht : f.type <;> rw [ht] at h <;> cases h <;> exact ⟨_, rfl, rfl⟩

/-! ## What a target names -/

theorem resolveTarget_of_parse? {m : ModelRef} (h : ModelRef.parse? target = some m)
    (owner : Option ModelRef) : resolveTarget owner target = m := by
  simp only [resolveTarget, h]

/-- A label names its model for every field. -/
theorem resolveTarget_of_isLabel (h : IsLabel target) (owner owner' : Option ModelRef) :
    resolveTarget owner target = resolveTarget owner' target := by
  obtain ⟨m, hm⟩ := Option.isSome_iff_exists.mp (ModelRef.isSome_parse?_iff.mpr h)
  rw [resolveTarget_of_parse? hm, resolveTarget_of_parse? hm]

theorem resolveTarget_self (owner : ModelRef) : resolveTarget (some owner) "self" = owner := by
  have hself : ModelRef.parse? "self" = none := by decide
  simp only [resolveTarget, hself, if_true]

/-- Any other text is the name of a model in the application of the field's own. -/
theorem resolveTarget_of_relative (h : ¬IsLabel target) (hs : target ≠ "self") (owner : ModelRef) :
    resolveTarget (some owner) target = ⟨owner.appLabel, target⟩ := by
  have hnone : ModelRef.parse? target = none := by
    rwa [← ModelRef.isSome_parse?_iff, Bool.not_eq_true, Option.isSome_eq_false_iff,
      Option.isNone_iff_eq_none] at h
  simp only [resolveTarget, hnone, if_neg hs]

/-- What a target names has plain names if the target is a label or a plain name itself. -/
theorem hasPlainNames_resolveTarget_iff (ho : owner.HasPlainNames) :
    (resolveTarget (some owner) target).HasPlainNames ↔ IsLabel target ∨ IsPlain target := by
  by_cases hl : IsLabel target
  · obtain ⟨m, hm⟩ := Option.isSome_iff_exists.mp (ModelRef.isSome_parse?_iff.mpr hl)
    rw [resolveTarget_of_parse? hm]
    exact iff_of_true (ModelRef.parse?_eq_some_iff.mp hm).2 (.inl hl)
  · by_cases hs : target = "self"
    · subst hs
      have hself : IsPlain "self" := by decide
      rw [resolveTarget_self]
      exact iff_of_true ho (.inr hself)
    · rw [resolveTarget_of_relative hl hs, or_iff_right hl]
      exact and_iff_right ho.1

/-! ## Canonical targets -/

/-- A relation that a field of a model with plain names declares is one to the model of the target's
label, to the field's own model for `self`, and else to the model of that name in the application.
The label of what is found is read as that model again if and only if the target is a label or a
plain name. In that case the same relation to this label is one to the same model, whichever model
declares it, or none. When the field is declared in another model, a target that is a label names
the same model as before. -/
theorem Relation.forward?_canonical {f : ModelField} (ho : owner.HasPlainNames)
    (hf : f.model = some owner) (ht : f.type.target? = some target) :
    ∃ r, forward? f = some r ∧
      (∀ m, ModelRef.parse? target = some m → r.related = m) ∧
      (target = "self" → r.related = owner) ∧
      (ModelRef.parse? target = none → target ≠ "self" →
        r.related = ⟨owner.appLabel, target⟩) ∧
      (ModelRef.parse? r.related.label = some r.related ↔ IsLabel target ∨ IsPlain target) ∧
      (IsLabel target ∨ IsPlain target →
        ∀ g : ModelField, g.type = f.type.withTarget r.related.label →
          ∃ r', forward? g = some r' ∧ r'.related = r.related) ∧
      ∀ (appLabel objectName : String) (fields : List ModelField), f ∈ fields →
        ∃ g ∈ (Model.ofFields appLabel objectName fields).fields,
          g = f.attach ⟨appLabel, objectName⟩ ∧
          ∃ r', forward? g = some r' ∧ (r'.related ≠ r.related → ¬IsLabel target) := by
  obtain ⟨r, hr, hrelated⟩ := exists_forward? ht
  rw [hf] at hrelated
  have hread : ModelRef.parse? r.related.label = some r.related ↔
      IsLabel target ∨ IsPlain target := by
    rw [ModelRef.parse?_eq_some_iff, eq_self, true_and, hrelated,
      hasPlainNames_resolveTarget_iff ho]
  refine ⟨r, hr, fun m hm => ?_, fun hs => ?_, fun hn hs => ?_, hread, fun h g hg => ?_,
    fun appLabel objectName fields hmem => ?_⟩
  · rw [hrelated, resolveTarget_of_parse? hm]
  · rw [hrelated, hs, resolveTarget_self]
  · have hl : ¬IsLabel target := by
      rw [← ModelRef.isSome_parse?_iff, hn]
      exact nofun
    rw [hrelated, resolveTarget_of_relative hl hs]
  · have htarget : g.type.target? = some r.related.label := by
      rw [hg, FieldType.target?_withTarget ht]
    obtain ⟨r', hr', hrelated'⟩ := exists_forward? htarget
    exact ⟨r', hr', hrelated'.trans (resolveTarget_of_parse? (hread.mpr h) g.model)⟩
  · have htarget : (f.attach ⟨appLabel, objectName⟩).type.target? = some target := ht
    obtain ⟨r', hr', hrelated'⟩ := exists_forward? htarget
    refine ⟨_, List.mem_map_of_mem hmem, rfl, r', hr', fun hne hl => hne ?_⟩
    rw [hrelated', hrelated]
    exact resolveTarget_of_isLabel hl _ _

/-- A comment's post, declared by its name alone, is a post of the same application, and stays one
under its label in a field that belongs to no model. -/
theorem Relation.forward?_canonical_post :
    let comment : ModelRef := ⟨"blog", "Comment"⟩
    let post : ModelField :=
      (ModelField.declare "post" (.foreignKey "Post" .cascade none) []).attach comment
    comment.HasPlainNames ∧ post.model = some comment ∧ post.type.target? = some "Post" ∧
    (∃ r, forward? post = some r ∧ r.related = ⟨"blog", "Post"⟩ ∧
      ModelRef.parse? r.related.label = some r.related ∧
      ∃ r', forward? (.ofType "post" (.foreignKey r.related.label .cascade none)) = some r' ∧
        r'.related = r.related) := by
  intro comment post
  have ho : comment.HasPlainNames := by decide
  have hplain : IsPlain "Post" := by decide
  have hnone : ModelRef.parse? "Post" = none := by decide
  obtain ⟨r, hr, -, -, hrelative, hread, hcanonical, -⟩ :=
    forward?_canonical (f := post) ho rfl rfl
  exact ⟨ho, rfl, rfl, r, hr, hrelative hnone (by decide), hread.mpr (.inr hplain),
    hcanonical (.inr hplain) _ rfl⟩

end FieldMap
