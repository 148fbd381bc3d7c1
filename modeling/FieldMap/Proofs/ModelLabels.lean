import FieldMap.Model.Ref
import FieldMap.Proofs.Forms
import Mathlib.Data.List.TakeWhile
import Mathlib.Data.Set.Function

/-!
# Labels of models

A label names a model if it has exactly one point, with something on each side of it
(`ModelRef.IsLabel`). Reading and writing labels are inverse to each other where both names of a
model are plain, that is, neither empty nor with a point in it (`ModelRef.parse?_eq_some_iff`). The
label of any other model is read as none, never as another model's, since a label is cut at its
points in one way (`ModelRef.eq_of_label_eq`).
-/

namespace FieldMap.ModelRef

variable {m other : ModelRef} {s : String}

/-! ## Labels -/

/-- A text that may stand on one side of a label's point. -/
def IsPlain (s : String) : Prop :=
  s ≠ "" ∧ '.' ∉ s.toList

instance (s : String) : Decidable (IsPlain s) :=
  inferInstanceAs (Decidable (_ ∧ _))

/-- Whether both names of a model are plain. -/
def HasPlainNames (m : ModelRef) : Prop :=
  IsPlain m.appLabel ∧ IsPlain m.objectName

instance (m : ModelRef) : Decidable m.HasPlainNames :=
  inferInstanceAs (Decidable (_ ∧ _))

/-- A text with exactly one point and something on each side of it. -/
def IsLabel (s : String) : Prop :=
  s.toList.count '.' = 1 ∧
    ∃ before after, before ≠ [] ∧ after ≠ [] ∧ s.toList = before ++ '.' :: after

theorem toList_label (m : ModelRef) :
    m.label.toList = m.appLabel.toList ++ '.' :: m.objectName.toList := by
  simp [label]

theorem isPlain_iff : IsPlain s ↔ s.toList ≠ [] ∧ '.' ∉ s.toList := by
  rw [IsPlain, ne_eq, ne_eq, String.toList_eq_nil_iff]

/-- A model that has the label of a model with plain names is that model. -/
theorem eq_of_label_eq (h : other.HasPlainNames) (he : m.label = other.label) : m = other := by
  have hlist := congrArg String.toList he
  rw [toList_label, toList_label] at hlist
  -- The other model's label has one point, so there is none in the names of this one.
  have hcount := congrArg (List.count '.') hlist
  rw [List.count_append, List.count_append, List.count_cons_self, List.count_cons_self,
    List.count_eq_zero.mpr h.1.2, List.count_eq_zero.mpr h.2.2] at hcount
  have happ : '.' ∉ m.appLabel.toList := List.count_eq_zero.mp (by omega)
  obtain ⟨ha, ho⟩ := Grammar.append_cons_inj happ h.1.2 hlist
  cases m
  cases other
  rw [String.toList_inj] at ha ho
  cases ha
  cases ho
  rfl

/-! ## Reading labels -/

theorem parse?_of_notMem (h : '.' ∉ s.toList) : parse? s = none := by
  have hdrop : s.toList.dropWhile (· ≠ '.') = [] :=
    List.dropWhile_eq_nil_iff.mpr fun c hc => decide_eq_true (ne_of_mem_of_not_mem hc h)
  rw [parse?, hdrop]

/-- A text is cut at its first point. -/
theorem parse?_of_toList_eq {before after : List Char} (h : '.' ∉ before)
    (hs : s.toList = before ++ '.' :: after) :
    parse? s = if before = [] ∨ after = [] ∨ '.' ∈ after then none
      else some ⟨String.ofList before, String.ofList after⟩ := by
  have hdrop : s.toList.dropWhile (· ≠ '.') = '.' :: after := by
    rw [hs, Grammar.dropWhile_ne_append h]
  have htake : s.toList.takeWhile (· ≠ '.') = before := by
    rw [hs, Grammar.takeWhile_ne_append h]
  rw [parse?, hdrop, htake]
  refine if_congr ?_ rfl rfl
  rw [Bool.or_eq_true, Bool.or_eq_true, List.isEmpty_iff, List.isEmpty_iff, List.contains_iff_mem,
    or_assoc]

/-- A text is read as the model of which it is the label, if that model's names are plain. -/
theorem parse?_eq_some_iff : parse? s = some m ↔ m.label = s ∧ m.HasPlainNames := by
  constructor
  · intro h
    by_cases hp : '.' ∈ s.toList
    · obtain ⟨before, after, hs, hb⟩ := List.eq_append_cons_of_mem hp
      rw [parse?_of_toList_eq hb hs] at h
      split at h
      · cases h
      · rename_i hn
        obtain ⟨hne, hne', ha⟩ : before ≠ [] ∧ after ≠ [] ∧ '.' ∉ after := by
          simpa only [not_or] using hn
        cases h
        refine ⟨?_, isPlain_iff.mpr ?_, isPlain_iff.mpr ?_⟩
        · rw [← String.toList_inj, toList_label, String.toList_ofList, String.toList_ofList, hs]
        · rw [String.toList_ofList]
          exact ⟨hne, hb⟩
        · rw [String.toList_ofList]
          exact ⟨hne', ha⟩
    · rw [parse?_of_notMem hp] at h
      cases h
  · rintro ⟨rfl, happ, hname⟩
    rw [isPlain_iff] at happ hname
    rw [parse?_of_toList_eq happ.2 m.toList_label, if_neg, String.ofList_toList,
      String.ofList_toList]
    rintro (he | he | he)
    · exact happ.1 he
    · exact hname.1 he
    · exact hname.2 he

theorem parse?_label (h : m.HasPlainNames) : parse? m.label = some m :=
  parse?_eq_some_iff.mpr ⟨rfl, h⟩

theorem parse?_label_eq_none (h : ¬m.HasPlainNames) : parse? m.label = none := by
  refine Option.eq_none_iff_forall_ne_some.mpr fun other ho => ?_
  obtain ⟨he, hother⟩ := parse?_eq_some_iff.mp ho
  exact h (eq_of_label_eq hother he.symm ▸ hother)

/-- Exactly the labels are read as models. -/
theorem isSome_parse?_iff : (parse? s).isSome = true ↔ IsLabel s := by
  rw [Option.isSome_iff_exists]
  constructor
  · rintro ⟨m, h⟩
    obtain ⟨rfl, happ, hname⟩ := parse?_eq_some_iff.mp h
    rw [isPlain_iff] at happ hname
    refine ⟨?_, m.appLabel.toList, m.objectName.toList, happ.1, hname.1, m.toList_label⟩
    rw [toList_label, List.count_append, List.count_cons_self, List.count_eq_zero.mpr happ.2,
      List.count_eq_zero.mpr hname.2]
  · rintro ⟨hcount, before, after, hb, ha, hs⟩
    rw [hs, List.count_append, List.count_cons_self] at hcount
    have hbefore : '.' ∉ before := List.count_eq_zero.mp (by omega)
    have hafter : '.' ∉ after := List.count_eq_zero.mp (by omega)
    refine ⟨_, (parse?_of_toList_eq hbefore hs).trans (if_neg ?_)⟩
    rintro (he | he | he)
    · exact hb he
    · exact ha he
    · exact hafter he

instance (s : String) : Decidable (IsLabel s) :=
  decidable_of_iff _ isSome_parse?_iff

/-- A text is read as a model if and only if it is a label, and the model is then shown as this
text. A model whose names are plain is read from its own label; a label of any other model is read
as none, and no label is read as a model that it is not the label of. So models that are read differ
in their labels. -/
theorem parse?_label_roundTrip :
    (∀ s, (parse? s).isSome = true ↔ IsLabel s) ∧
    (∀ s m, parse? s = some m → m.label = s ∧ m.display = s) ∧
    (∀ m : ModelRef, m.HasPlainNames → parse? m.label = some m) ∧
    (∀ m : ModelRef, ¬m.HasPlainNames → parse? m.label = none) ∧
    (∀ m other : ModelRef, parse? m.label = some other → other = m) ∧
    Set.InjOn label {m | ∃ s, parse? s = some m} := by
  refine ⟨fun s => isSome_parse?_iff, fun s m h => ?_, fun m => parse?_label,
    fun m => parse?_label_eq_none, fun m other h => ?_, ?_⟩
  · have hs := (parse?_eq_some_iff.mp h).1
    exact ⟨hs, hs⟩
  · obtain ⟨he, hother⟩ := parse?_eq_some_iff.mp h
    exact (eq_of_label_eq hother he.symm).symm
  · rintro m - other ⟨s, hs⟩ he
    exact eq_of_label_eq (parse?_eq_some_iff.mp hs).2 he

/-- A point in the application's label makes a label of three parts, which is read as none. -/
example : parse? (label ⟨"shop.eu", "Order"⟩) = none := by
  decide

end FieldMap.ModelRef
