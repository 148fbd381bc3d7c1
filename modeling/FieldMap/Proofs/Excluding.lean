import FieldMap.Proofs.Selecting

/-!
# Exclusions

All names but some are selected by excluding one name after the other, each of which must be among
the names that are left. This comes to a condition on all exclusions together: they differ from each
other, and each of them is there at the start (`FieldBuilder.Applies`,
`selectedNames_allBut_eq_ok_iff`). So they do the same in every order
(`selectedNames_allBut_congr`). Where they do not apply, the error names the first one that is not
there or repeats an earlier one (`selectedNames_allBut_eq_error_iff`).
-/

namespace FieldMap

namespace FieldBuilder

variable {b : FieldBuilder} {m : Model} {excluded names : List String}

/-! ## Exclusions that apply -/

/-- Exclusions apply to names if they differ from each other and each of them is one of the
names. -/
structure Applies (excluded names : List String) : Prop where
  distinct : excluded.Nodup
  found : ∀ name ∈ excluded, name ∈ names

theorem Applies.perm {other : List String} (h : Applies excluded names)
    (hp : excluded.Perm other) : Applies other names where
  distinct := hp.nodup h.distinct
  found := fun name hname => h.found name (hp.mem_iff.mpr hname)

/-! ## What is left -/

theorem selectedNames_allBut_eq_ok_iff :
    b.selectedNames m (.allBut excluded) = .ok names ↔
      Applies excluded (b.defaultFieldNames m) ∧
        names = (b.defaultFieldNames m).filter fun name => !excluded.contains name := by
  rw [selectedNames, foldlM_exclude_eq_ok_iff, ← and_assoc]
  exact and_congr_left fun _ => ⟨fun h => ⟨h.1, h.2⟩, fun h => ⟨h.1, h.2⟩⟩

/-- What fails first is no name at all, or was taken away by the same exclusion before. -/
theorem selectedNames_allBut_eq_error_iff {e : BuildError} :
    b.selectedNames m (.allBut excluded) = .error e ↔
      ∃ before name after, excluded = before ++ name :: after ∧
        Applies before (b.defaultFieldNames m) ∧
        (name ∉ b.defaultFieldNames m ∨ name ∈ before) ∧
        e = .cannotExclude name m.objectName := by
  rw [selectedNames, foldlM_eq_error_iff]
  refine exists_congr fun before => exists_congr fun name => exists_congr fun after => ?_
  constructor
  · rintro ⟨reached, he, hb, hx⟩
    obtain ⟨ha, rfl⟩ := selectedNames_allBut_eq_ok_iff.mp hb
    obtain ⟨hn, rfl⟩ := exclude_eq_error_iff.mp hx
    refine ⟨he, ha, ?_, rfl⟩
    by_contra hnot
    rw [not_or, not_not] at hnot
    refine hn (List.mem_filter.mpr ⟨hnot.1, ?_⟩)
    rw [Bool.not_eq_true', ← Bool.not_eq_true, List.contains_iff_mem]
    exact hnot.2
  · rintro ⟨he, ha, hn, rfl⟩
    refine ⟨_, he, selectedNames_allBut_eq_ok_iff.mpr ⟨ha, rfl⟩,
      exclude_eq_error_iff.mpr ⟨fun hmem => ?_, rfl⟩⟩
    obtain ⟨hdefault, hleft⟩ := List.mem_filter.mp hmem
    rcases hn with hn | hn
    · exact hn hdefault
    · rw [List.contains_iff_mem.mpr hn] at hleft
      cases hleft

/-- Exclusions give the same names in every order. -/
theorem selectedNames_allBut_congr {other : List String} (hp : excluded.Perm other) :
    b.selectedNames m (.allBut excluded) = .ok names ↔
      b.selectedNames m (.allBut other) = .ok names := by
  have hleft : (b.defaultFieldNames m).filter (fun name => !excluded.contains name) =
      (b.defaultFieldNames m).filter fun name => !other.contains name :=
    List.filter_congr fun name _ => congrArg (!·) hp.contains_eq
  rw [selectedNames_allBut_eq_ok_iff, selectedNames_allBut_eq_ok_iff, hleft]
  exact and_congr_left fun _ => ⟨fun h => h.perm hp, fun h => h.perm hp.symm⟩

/-- Excluding names succeeds exactly if they differ from each other and each of them is a default
name. What is left are the default names without every occurrence of an excluded one, in the order
they had, however the exclusions are ordered. If it fails, so does building the fields, and the
error names the first exclusion that is no default name or repeats an earlier one. -/
theorem selectedNames_allBut_exact (b : FieldBuilder) (m : Model) (excluded : List String) :
    ((∃ names, b.selectedNames m (.allBut excluded) = .ok names) ↔
      Applies excluded (b.defaultFieldNames m)) ∧
    (∀ names, b.selectedNames m (.allBut excluded) = .ok names →
      names = (b.defaultFieldNames m).filter fun name => !excluded.contains name) ∧
    (∀ other, excluded.Perm other → ∀ names,
      b.selectedNames m (.allBut excluded) = .ok names ↔
        b.selectedNames m (.allBut other) = .ok names) ∧
    (∀ e, b.selectedNames m (.allBut excluded) = .error e →
      (∃ before name after, excluded = before ++ name :: after ∧
        Applies before (b.defaultFieldNames m) ∧
        (name ∉ b.defaultFieldNames m ∨ name ∈ before) ∧
        e.toError = .improperlyConfigured ("Cannot exclude the field `" ++ name ++
          "`: it is not a field of model `" ++ m.objectName ++ "`.")) ∧
      ∀ s : Selection, s.fields = .allBut excluded → b.buildFields m s = .error e) := by
  refine ⟨?_, fun names h => (selectedNames_allBut_eq_ok_iff.mp h).2,
    fun other hp names => selectedNames_allBut_congr hp, fun e h => ⟨?_, fun s hs => ?_⟩⟩
  · simp only [selectedNames_allBut_eq_ok_iff, exists_and_left, exists_eq, and_true]
  · obtain ⟨before, name, after, he, ha, hn, rfl⟩ := selectedNames_allBut_eq_error_iff.mp h
    exact ⟨before, name, after, he, ha, hn, rfl⟩
  · rw [buildFields_eq_error_iff, hs]
    exact .inl h

/-- A field that has the name of the link to the object is excluded together with the link. -/
example : (FieldBuilder.hyperlinked.selectedNames
    (.ofFields "news" "Page" [.declare "url" .url [], .declare "body" .text []])
    (.allBut ["url"])).toOption = some ["body"] := by
  rfl

end FieldBuilder

end FieldMap
