import FieldMap.Text.Case
import Mathlib.Data.List.Basic

/-!
# Words in any letter case

A text is an ASCII word in some letter case if its letters are those of the word, small or capital.
This is what comparing lower cases comes to (`Text.lowercase_eq_iff`), since a character outside
ASCII has a lower case that begins outside ASCII (`Text.exists_lowerForm`), but for two characters:
a capital i with a dot and the sign for kelvin. The word must have none of their letters. What holds
of the characters of ASCII is decided by trying them all (`Text.forall_ascii`).
-/

namespace FieldMap.Text

/-! ## Characters of ASCII -/

/-- What holds of the first 128 codes holds of the characters of ASCII. -/
theorem forall_ascii {P : Char → Prop} (h : ∀ n < 128, P (Char.ofNat n)) {c : Char}
    (hc : c.toNat < 128) : P c := by
  rw [← Char.ofNat_toNat c]
  exact h c.toNat hc

theorem toNat_lt_of_isAlphanum {c : Char} (h : c.isAlphanum = true) : c.toNat < 128 := by
  -- Capitals, small letters and digits: each class has a last character.
  have hlast : c.val ≤ 'Z'.val ∨ c.val ≤ 'z'.val ∨ c.val ≤ '9'.val := by
    obtain h | h := Bool.or_eq_true_iff.mp h
    · obtain h | h := Bool.or_eq_true_iff.mp h
      · exact .inl (of_decide_eq_true h).2
      · exact .inr (.inl (of_decide_eq_true (Bool.and_eq_true_iff.mp h).2))
    · exact .inr (.inr (of_decide_eq_true (Bool.and_eq_true_iff.mp h).2))
  obtain h | h | h := hlast
  all_goals exact Nat.lt_of_le_of_lt (UInt32.le_iff_toNat_le.mp h) (by decide)

/-! ## Lower cases outside ASCII -/

theorem toNat_ofNat {n : Nat} (h : n.isValidChar) : (Char.ofNat n).toNat = n := by
  rw [Char.ofNat, dif_pos h]
  rfl

/-- What the table of lower cases does to characters outside ASCII: they stay there, or the run is
the sign for kelvin alone. -/
theorem lowerRuns_shift : ∀ run ∈ lowerRuns, 128 ≤ run.first + run.shift ∧
      (run.last + run.shift < 0xD800 ∨
        0xDFFF < run.first + run.shift ∧ run.last + run.shift < 0x110000) ∨
    run.first + run.shift = 'k'.toNat ∧ run.last = run.first := by
  decide +kernel

/-- A character outside ASCII has a lower case that begins outside ASCII, or with one of two
letters. -/
theorem exists_lowerForm {c : Char} (h : 128 ≤ c.toNat) :
    ∃ x tail, lowerForm c = x :: tail ∧ (128 ≤ x.toNat ∨ x = 'i' ∨ x = 'k') := by
  rw [lowerForm, if_neg (Nat.not_lt.mpr h)]
  split
  · rename_i codes hcodes
    obtain ⟨before, after, he, -⟩ := List.lookup_eq_some_iff.mp hcodes
    have hmem : (c.toNat, codes) ∈ lowerSequences := he ▸ List.mem_append_right _ List.mem_cons_self
    rw [lowerSequences, List.mem_singleton] at hmem
    obtain ⟨-, rfl⟩ := Prod.mk.inj hmem
    exact ⟨_, _, rfl, .inr (.inl (by decide))⟩
  · refine ⟨_, _, rfl, ?_⟩
    rw [shiftCase]
    split
    · rename_i run hrun
      have hcovers : run.first ≤ c.toNat ∧ c.toNat ≤ run.last := by
        have := List.find?_some hrun
        simp only [CaseRun.covers, Bool.and_eq_true, decide_eq_true_eq] at this
        exact this.1
      obtain ⟨hlow, hvalid⟩ | ⟨hk, hlast⟩ := lowerRuns_shift run (List.mem_of_find?_eq_some hrun)
      · left
        rw [toNat_ofNat]
        · omega
        · rw [Nat.isValidChar]
          omega
      · right
        right
        have : ((c.toNat : Int) + run.shift).toNat = 'k'.toNat := by omega
        rw [this]
        decide
    · exact .inl h

theorem toLower_of_not_ascii {c : Char} (h : 128 ≤ c.toNat) : c.toLower = c := by
  refine dif_neg fun hu => ?_
  have : c.toNat ≤ 'Z'.toNat := UInt32.le_iff_toNat_le.mp hu.2
  exact absurd (Nat.le_trans h this) (by decide)

/-- A character outside ASCII is no part of a word, however it is written. -/
theorem exists_lowercaseAfter_cons {c : Char} (h : 128 ≤ c.toNat) (before rest : List Char) :
    ∃ x tail, lowercaseAfter before (c :: rest) = x :: tail ∧
      (128 ≤ x.toNat ∨ x = 'i' ∨ x = 'k') := by
  rw [lowercaseAfter]
  by_cases hc : c = 'Σ'
  · rw [if_pos hc]
    refine ⟨_, _, rfl, .inl ?_⟩
    split <;> decide
  · obtain ⟨x, tail, hx, h⟩ := exists_lowerForm h
    rw [if_neg hc, hx]
    exact ⟨x, _, rfl, h⟩

/-! ## Words -/

theorem lowercaseAfter_eq_iff {text word before : List Char}
    (hw : ∀ x ∈ word, x.toNat < 128 ∧ x ≠ 'i' ∧ x ≠ 'k') :
    lowercaseAfter before text = word ↔ text.map Char.toLower = word := by
  induction text generalizing word before with
  | nil => rfl
  | cons c rest ih =>
    rcases Nat.lt_or_ge c.toNat 128 with hc | hc
    · have hne : c ≠ 'Σ' := by
        rintro rfl
        exact absurd hc (by decide)
      rw [lowercaseAfter, if_neg hne, lowerForm_ascii hc, List.singleton_append, List.map_cons]
      cases word with
      | nil => exact iff_of_false (List.cons_ne_nil _ _) (List.cons_ne_nil _ _)
      | cons x word =>
        rw [List.cons.injEq, List.cons.injEq, ih fun y hy => hw y (List.mem_cons_of_mem _ hy)]
    · obtain ⟨x, tail, he, hx⟩ := exists_lowercaseAfter_cons hc before rest
      rw [he, List.map_cons, toLower_of_not_ascii hc]
      refine iff_of_false ?_ ?_
      · rintro rfl
        obtain ⟨ha, hi, hk⟩ := hw x List.mem_cons_self
        obtain hx | rfl | rfl := hx
        · exact absurd hx (Nat.not_le.mpr ha)
        · exact hi rfl
        · exact hk rfl
      · rintro rfl
        exact absurd hc (Nat.not_le.mpr (hw c List.mem_cons_self).1)

/-- Whether a text is a word, written in small letters or capitals. -/
def Spells (text word : String) : Prop :=
  text.toList.map Char.toLower = word.toList

/-- The lower case of a text is a word exactly if the text spells it. -/
theorem lowercase_eq_iff {text word : String}
    (hw : ∀ x ∈ word.toList, x.toNat < 128 ∧ x ≠ 'i' ∧ x ≠ 'k') :
    lowercase text = word ↔ Spells text word := by
  rw [← String.toList_inj, lowercase, String.toList_ofList]
  exact lowercaseAfter_eq_iff hw

end FieldMap.Text
