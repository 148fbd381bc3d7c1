import FieldMap.Json.Parser
import FieldMap.Json.Printer
import FieldMap.Proofs.WrittenNumbers
import Mathlib.Data.List.TakeWhile

/-!
# Numbers as tokens

A document that is a numeral with its sign is one number (`Json.parse?_withSign`). An integer that
fits 64 bits with a sign is read back as it was written (`Json.parse?_toString`). A numeral with a
point or a power of ten is the text of no integer (`Numeral.IsFloat.ne_toString`) and is not read as
one (`Json.exists_float_of_numberOf?`), and what is written of a number in floating point is such a
numeral (`Json.writeFloat_isFloat`).
-/

namespace FieldMap

/-! ## Texts of one number -/

namespace Json

theorem isNumeric_of_isDigit {c : Char} (h : c.isDigit = true) : isNumeric c = true := by
  simp only [isNumeric, h, Bool.true_or]

theorem parse?_eq_numberOf? {first : Char} {rest : List Char}
    (hfirst : first = '-' ∨ first.isDigit = true) (hrest : ∀ c ∈ rest, isNumeric c = true) :
    parse? (String.ofList (first :: rest)) = numberOf? (first :: rest) := by
  have hspace : isSpace first = false := by
    rcases hfirst with rfl | h
    · rfl
    · rw [Bool.eq_false_iff]
      intro hs
      simp only [isSpace, Bool.or_eq_true, decide_eq_true_iff] at hs
      rcases hs with ((rfl | rfl) | rfl) | rfl <;> cases h
  have hquote : first ≠ '"' := by
    rintro rfl
    rcases hfirst with h | h <;> cases h
  have htake : rest.takeWhile isNumeric = rest := List.takeWhile_eq_self_iff.mpr hrest
  have hdrop : rest.dropWhile isNumeric = [] := List.dropWhile_eq_nil_iff.mpr hrest
  have hnil : Token.scan? [] = some [] := by rw [Token.scan?]
  have hnumber : (first = '-' || first.isDigit) = true := by
    rcases hfirst with rfl | h
    · rfl
    · rw [h, Bool.or_true]
  rw [parse?, String.toList_ofList, Token.scan?, hspace, if_neg Bool.false_ne_true, if_neg hquote,
    if_pos hnumber, htake, hdrop, hnil]
  cases numberOf? (first :: rest) with
  | none => rfl
  | some value => rfl

end Json

theorem Numeral.isNumeric_text (n : Numeral) : ∀ c ∈ n.text, Json.isNumeric c = true := by
  have hpower : ∀ c ∈ powerText n.power, Json.isNumeric c = true := by
    cases n.power with
    | none => exact fun _ hc => by cases hc
    | some power =>
      intro c hc
      rcases List.mem_cons.mp hc with rfl | hc
      · rfl
      rcases List.mem_cons.mp hc with rfl | hc
      · split <;> rfl
      · exact Json.isNumeric_of_isDigit (isDigit_toDigits _ c hc)
  have hpoint : ∀ c ∈ pointText n.fraction, Json.isNumeric c = true := by
    intro c hc
    rw [pointText] at hc
    split at hc
    · cases hc
    · rcases List.mem_cons.mp hc with rfl | hc
      · rfl
      · exact Json.isNumeric_of_isDigit (n.isDigit_fraction c hc)
  intro c hc
  rcases List.mem_append.mp hc with hc | hc
  · exact Json.isNumeric_of_isDigit (n.isDigit_whole c hc)
  · exact (List.mem_append.mp hc).elim (hpoint c) (hpower c)

/-- A numeral with its sign is one number. -/
theorem Json.parse?_withSign (n : Numeral) (negative : Bool) :
    parse? (String.ofList (withSign negative n.text)) = numberOf? (withSign negative n.text) := by
  obtain ⟨first, rest, hcons, hdigit⟩ := n.exists_head
  have hnumeric := n.isNumeric_text
  cases negative with
  | true => exact parse?_eq_numberOf? (.inl rfl) hnumeric
  | false =>
    rw [hcons] at hnumeric ⊢
    exact parse?_eq_numberOf? (.inr hdigit) fun c hc => hnumeric c (List.mem_cons_of_mem _ hc)

/-! ## Integers -/

namespace Json

/-- No natural number but zero begins with a zero. -/
theorem head?_toDigits_ne {n : ℕ} (hn : 0 < n) : (Nat.toDigits 10 n).head? ≠ some '0' := by
  induction n using Nat.strong_induction_on with
  | _ n ih =>
    rcases lt_or_ge n 10 with h | h
    · rw [Nat.toDigits_of_lt_base h]
      have hdigit : ∀ d < 10, 0 < d → [Nat.digitChar d].head? ≠ some '0' := by decide
      exact hdigit n h hn
    · rw [Nat.toDigits_of_base_le (by decide) h, List.head?_append_of_ne_nil _ Nat.toDigits_ne_nil]
      exact ih (n / 10) (by omega) (by omega)

/-- No sign is part of digits. -/
theorem ne_minus_of_isDigit {digits : List Char} (hne : digits ≠ [])
    (hdigits : ∀ c ∈ digits, c.isDigit = true) (rest : List Char) :
    ∀ text, digits ++ rest = '-' :: text → False := by
  obtain ⟨first, others, rfl⟩ := List.exists_cons_of_ne_nil hne
  rintro _ ⟨⟩
  cases hdigits '-' List.mem_cons_self

/-- The digits of a natural number, with a sign or without, are the text of an integer. -/
theorem numberOf?_toDigits (negative : Bool) (n : ℕ) :
    numberOf? (withSign negative (Nat.toDigits 10 n)) =
      integerOf? negative (Nat.toDigits 10 n) := by
  have hall := isDigit_toDigits n
  have hguard : (!(Nat.toDigits 10 n).isEmpty && ((Nat.toDigits 10 n).length == 1 ||
      (Nat.toDigits 10 n).head? != some '0')) = true := by
    rw [List.isEmpty_eq_false_iff.mpr Nat.toDigits_ne_nil]
    rcases n.eq_zero_or_pos with rfl | hn
    · rfl
    · rw [bne_iff_ne.mpr (head?_toDigits_ne hn), Bool.or_true]
      rfl
  have hminus := ne_minus_of_isDigit Nat.toDigits_ne_nil hall []
  rw [List.append_nil] at hminus
  have htake := List.takeWhile_eq_self_iff.mpr hall
  have hdrop := List.dropWhile_eq_nil_iff.mpr hall
  cases negative with
  | true =>
    rw [withSign, if_pos rfl, numberOf?, htake, hdrop, hguard]
    rfl
  | false =>
    rw [withSign, if_neg Bool.false_ne_true, numberOf?, htake, hdrop, hguard]
    · rfl
    · exact hminus

/-- An integer is written as the digits of its magnitude behind its sign. -/
theorem toString_int (n : ℤ) :
    toString n = String.ofList (withSign (decide (n < 0)) (Nat.toDigits 10 n.natAbs)) := by
  rw [Int.toString_eq_repr, Int.repr_eq_if, withSign]
  split
  · rename_i h
    rw [if_neg (by rw [decide_eq_true_iff]; omega), Nat.repr_eq_ofList_toDigits]
    congr 2
    omega
  · rename_i h
    rw [if_pos (by rw [decide_eq_true_iff]; omega), Nat.repr_eq_ofList_toDigits,
      ← List.singleton_append, String.ofList_append]
    congr 3
    omega

theorem mem_toString_int {n : ℤ} {c : Char} (h : c ∈ (toString n).toList) :
    c = '-' ∨ c.isDigit = true := by
  rw [toString_int, String.toList_ofList] at h
  exact (mem_withSign.mp h).imp And.right (isDigit_toDigits _ c)

/-- An integer that fits 64 bits with a sign is read back as it was written. -/
theorem parse?_toString {n : ℤ} (hlow : -2 ^ 63 ≤ n) (hhigh : n < 2 ^ 63) :
    parse? (toString n) = some (.int n) := by
  have hparse : parse? (toString n) = integerOf? (decide (n < 0)) (Nat.toDigits 10 n.natAbs) := by
    rw [toString_int, ← Numeral.text_ofNat, parse?_withSign, Numeral.text_ofNat, numberOf?_toDigits]
  have hmax : ¬ maxDigits < n.natAbs := by
    rw [maxDigits, Nat.pow_eq]
    omega
  rw [hparse, integerOf?, digitsValue_toDigits, if_neg hmax]
  rcases lt_or_ge n 0 with hn | hn
  · have hrange : ¬ (n.natAbs = 0 ∨ Nat.pow 2 63 < n.natAbs) := by
      rw [Nat.pow_eq]
      omega
    rw [decide_eq_true hn, if_neg (Ne.symm Bool.false_ne_true), if_neg hrange]
    congr 2
    omega
  · rw [decide_eq_false (by omega), if_pos rfl]
    congr 2
    omega

end Json

/-- An integer that is a number of the format is read as a number of its value. -/
theorem Binary64.ofText?_toString {x : Binary64} {n : ℤ} (hx : x.isFinite = true)
    (h : x.toRat = n) :
    ∃ y : Binary64, ofText? (toString n) = some y ∧ y.isFinite = true ∧ y.toRat = x.toRat := by
  obtain ⟨y, hy, hvalue⟩ := exists_toRat_eq_abs hx
  have hdecimal : y.toRat = n.natAbs * 10 ^ (0 : ℤ) := by
    rw [hvalue, h, zpow_zero, mul_one, Nat.cast_natAbs, Int.cast_abs]
  have hread := (Numeral.ofNat n.natAbs).ofText?_withSign (decide (n < 0))
  rw [Numeral.text_ofNat, ← Json.toString_int, Numeral.coefficient_ofNat, Numeral.exponent_ofNat]
    at hread
  have hlt : y.toRat < overflow := (le_abs_self _).trans_lt (abs_toRat_lt hy)
  obtain ⟨hfinite, hsigned⟩ :=
    toRat_ofDecimal (hdecimal ▸ isNearest_self hy) (hdecimal ▸ hlt) (decide (n < 0))
  refine ⟨_, hread, hfinite, ?_⟩
  rw [hsigned, hvalue, h]
  rcases lt_or_ge n 0 with hn | hn
  · rw [decide_eq_true hn, abs_of_neg (Int.cast_lt_zero.mpr hn)]
    exact neg_neg _
  · rw [decide_eq_false hn.not_gt, abs_of_nonneg (Int.cast_nonneg hn)]
    rfl

/-! ## Numbers in floating point -/

namespace Numeral

variable {n : Numeral}

/-- The mark of a number in floating point. -/
theorem IsFloat.exists_mark (h : n.IsFloat) : '.' ∈ n.tail ∨ 'e' ∈ n.tail := by
  refine h.imp (fun hf => ?_) fun hp => ?_
  · refine List.mem_append_left _ ?_
    rw [pointText, if_neg hf]
    exact List.mem_cons_self
  · obtain ⟨power, hpower⟩ := Option.isSome_iff_exists.mp hp
    refine List.mem_append_right _ ?_
    rw [hpower]
    exact List.mem_cons_self

/-- A numeral with a point or a power of ten is the text of no integer. -/
theorem IsFloat.ne_toString (h : n.IsFloat) (negative : Bool) (k : ℤ) :
    String.ofList (withSign negative n.text) ≠ toString k := by
  intro he
  have hmem : ∀ c ∈ n.tail, c = '-' ∨ c.isDigit = true := by
    intro c hc
    refine Json.mem_toString_int (n := k) ?_
    rw [← he, String.toList_ofList]
    exact mem_withSign.mpr (.inr (List.mem_append_right n.whole hc))
  rcases h.exists_mark with hmark | hmark
  · exact absurd (hmem _ hmark) (by decide)
  · exact absurd (hmem _ hmark) (by decide)

end Numeral

namespace Json

theorem exists_float_of_decimalOf? {negative : Bool} {whole fraction : List Char} {power : ℤ}
    {document : Json} (h : decimalOf? negative whole fraction power = some document) :
    ∃ value, document = .float value := by
  obtain ⟨value, -, hvalue⟩ := Option.map_eq_some_iff.mp h
  exact ⟨value, hvalue.symm⟩

/-- A numeral with a point or a power of ten is read as no integer. -/
theorem exists_float_of_numberOf? {n : Numeral} (hn : n.IsFloat) (negative : Bool)
    {document : Json} (h : numberOf? (withSign negative n.text) = some document) :
    ∃ value, document = .float value := by
  obtain ⟨htake, hdrop⟩ := span_isDigit_append n.isDigit_whole n.head?_tail
  have hminus := ne_minus_of_isDigit n.whole_ne_nil n.isDigit_whole n.tail
  have htail : n.tail ≠ [] := hn.exists_mark.elim List.ne_nil_of_mem List.ne_nil_of_mem
  rw [Numeral.text, withSign] at h
  cases negative
  case' true => rw [if_pos rfl, numberOf?, htake, hdrop] at h
  case' false =>
    rw [if_neg Bool.false_ne_true, numberOf?, htake, hdrop] at h
    swap
    · exact hminus
  all_goals
    obtain ⟨_, -, h⟩ := Option.bind_eq_some_iff.mp h
    split at h
    · rename_i hnil
      exact absurd hnil htail
    · obtain ⟨_, -, h⟩ := Option.bind_eq_some_iff.mp h
      obtain ⟨_, -, h⟩ := Option.bind_eq_some_iff.mp h
      exact exists_float_of_decimalOf? h
    · obtain ⟨_, -, h⟩ := Option.bind_eq_some_iff.mp h
      exact exists_float_of_decimalOf? h

/-- A finite number in floating point is written as a numeral with a point or a power of ten. -/
theorem exists_numeral_writeFloat {x : Binary64} (hx : x.isFinite = true) :
    ∃ (n : Numeral) (negative : Bool), n.IsFloat ∧
      writeFloat x = String.ofList (withSign negative n.text) := by
  cases x with
  | finite negative m e hc =>
    obtain ⟨n, htext, -, hfloat⟩ := jsonLayout.exists_numeral m e
    refine ⟨n, negative, hfloat rfl, ?_⟩
    rw [writeFloat, if_pos hx, Layout.write, htext]
    rfl
  | _ => cases hx

/-- The text of a finite number in floating point is the text of no integer, and is read as none. -/
theorem writeFloat_isFloat {x : Binary64} (hx : x.isFinite = true) :
    (∀ k : ℤ, writeFloat x ≠ toString k) ∧
      ∀ document, parse? (writeFloat x) = some document → ∃ value, document = .float value := by
  obtain ⟨n, negative, hfloat, htext⟩ := exists_numeral_writeFloat hx
  rw [htext]
  refine ⟨hfloat.ne_toString negative, fun document h => ?_⟩
  rw [parse?_withSign] at h
  exact exists_float_of_numberOf? hfloat negative h

end Json

end FieldMap
