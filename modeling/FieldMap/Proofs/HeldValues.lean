import FieldMap.Proofs.WholeNumbers
import FieldMap.Serializer.Document
import Mathlib.Data.List.Forall2

/-!
# What documents hold

What stands for a value, a style or a bound in a document is said here by a relation each, case by
case and without the function that makes the document: `Value.HeldAs`, `Style.HeldAs`,
`LimitHeldAs`. The functions make this document and no other one (`Value.heldAs_iff`,
`Style.heldAs_iff`, `limitHeldAs_iff`). A bound is an integer in documents exactly if it is equal to
one of 64 bits with a sign (`isIntegerLimit_iff`).
-/

namespace FieldMap

open Binary64

/-! ## Values -/

namespace Value

/-- A document stands for a value: the value itself where documents have its kind, the text that is
shown of a date, a time or an identifier, and the array of what stands for the items of a list. For
what is no finite number stands `null`. -/
inductive HeldAs : Value → Json → Prop where
  | null : HeldAs .null .null
  | bool (value : Bool) : HeldAs (.bool value) (.bool value)
  | int (value : Int) : HeldAs (.int value) (.int value)
  | finite (negative : Bool) (m : Nat) (e : Int) (h : Canonical m e) :
    HeldAs (.float (.finite negative m e h)) (.float (.finite negative m e h))
  | infinite (negative : Bool) : HeldAs (.float (.infinite negative)) .null
  | nan : HeldAs (.float .nan) .null
  | string (text : String) : HeldAs (.string text) (.string text)
  | date (d : Date) : HeldAs (.date d) (.string (Value.date d).display)
  | dateTime (d : Date) (t : TimeOfDay) :
    HeldAs (.dateTime d t) (.string (Value.dateTime d t).display)
  | time (t : TimeOfDay) : HeldAs (.time t) (.string (Value.time t).display)
  | uuid (id : Uuid) : HeldAs (.uuid id) (.string (Value.uuid id).display)
  | json (document : Json) : HeldAs (.json document) document
  | list {items : List Value} {documents : List Json} :
    List.Forall₂ HeldAs items documents → HeldAs (.list items) (.array documents)

mutual

theorem heldAs_toJson (value : Value) : value.HeldAs value.toJson := by
  match value with
  | .null => exact .null
  | .bool value => exact .bool value
  | .int value => exact .int value
  | .float x =>
    cases x with
    | finite negative m e h => exact .finite negative m e h
    | infinite negative => exact .infinite negative
    | nan => exact .nan
  | .string text => exact .string text
  | .date d => exact .date d
  | .dateTime d t => exact .dateTime d t
  | .time t => exact .time t
  | .uuid id => exact .uuid id
  | .json document => exact .json document
  | .list items => exact .list (forall₂_heldAs_itemsToJson items)

theorem forall₂_heldAs_itemsToJson (items : List Value) :
    List.Forall₂ HeldAs items (itemsToJson items) := by
  match items with
  | [] => exact .nil
  | item :: rest => exact .cons item.heldAs_toJson (forall₂_heldAs_itemsToJson rest)

end

mutual

theorem HeldAs.eq_toJson {value : Value} {document : Json} (h : value.HeldAs document) :
    document = value.toJson := by
  cases h with
  | list h => exact congrArg Json.array (eq_itemsToJson_of_forall₂ h)
  | _ => rfl

theorem eq_itemsToJson_of_forall₂ {items : List Value} {documents : List Json}
    (h : List.Forall₂ HeldAs items documents) : documents = itemsToJson items := by
  cases h with
  | nil => rfl
  | cons h hrest => exact congrArg₂ List.cons h.eq_toJson (eq_itemsToJson_of_forall₂ hrest)

end

/-- The document that is made of a value stands for it, and no other one does. -/
theorem heldAs_iff {value : Value} {document : Json} :
    value.HeldAs document ↔ document = value.toJson :=
  ⟨HeldAs.eq_toJson, fun h => h ▸ value.heldAs_toJson⟩

end Value

/-! ## Styles -/

/-- A document stands for a style: an object with the template and, if the style has one, the type
of input after it. -/
inductive Style.HeldAs : Style → Json → Prop where
  | plain (template : String) :
    HeldAs { baseTemplate := template } (.object [("base_template", .string template)])
  | input (template inputType : String) :
    HeldAs { baseTemplate := template, inputType := some inputType }
      (.object [("base_template", .string template), ("input_type", .string inputType)])

theorem Style.heldAs_iff {s : Style} {document : Json} :
    s.HeldAs document ↔ document = s.toJson := by
  constructor
  · rintro (_ | _) <;> rfl
  · rintro rfl
    obtain ⟨template, _ | inputType⟩ := s
    · exact .plain template
    · exact .input template inputType

/-! ## Integers of 64 bits -/

variable {x : Binary64}

/-- A number that is equal to an integer of 64 bits with a sign. -/
structure Binary64.IsInt64 (x : Binary64) : Prop where
  finite : x.isFinite = true
  whole : ∃ n : ℤ, x.toRat = n
  least_le : -2 ^ 63 ≤ x.toRat
  lt_range : x.toRat < 2 ^ 63

theorem toRat_int64Range : int64Range.isFinite = true ∧ int64Range.toRat = 2 ^ 63 := by
  have hparts : int64Range = .finite false (2 ^ 52) 11 (by decide) := by decide +kernel
  rw [hparts]
  refine ⟨rfl, ?_⟩
  show ((2 ^ 52 : ℕ) : ℚ) * 2 ^ (11 : ℤ) = 2 ^ 63
  norm_num

/-- A bound is written as an integer if it is whole and not beyond the integers of 64 bits, of which
the least one is a bound and the number after the last one is not. -/
theorem isIntegerLimit_iff (x : Binary64) : isIntegerLimit x = true ↔ x.IsInt64 := by
  obtain ⟨hrange, hvalue⟩ := toRat_int64Range
  rw [isIntegerLimit, Bool.and_eq_true, Bool.and_eq_true, fract_eq_zero_iff]
  constructor
  · rintro ⟨⟨hx, hwhole⟩, hlow, hhigh⟩
    rw [le_iff ((isFinite_neg _).trans hrange) hx, toRat_neg, hvalue] at hlow
    rw [lt_iff hx hrange, hvalue] at hhigh
    exact ⟨hx, hwhole, hlow, hhigh⟩
  · rintro ⟨hx, hwhole, hlow, hhigh⟩
    rw [le_iff ((isFinite_neg _).trans hrange) hx, toRat_neg, hvalue, lt_iff hx hrange, hvalue]
    exact ⟨⟨hx, hwhole⟩, hlow, hhigh⟩

/-- The conversion to 64 bits changes no such number. -/
theorem Binary64.IsInt64.toInt64 (h : x.IsInt64) :
    (x.toInt64 : ℚ) = x.toRat ∧ -2 ^ 63 ≤ x.toInt64 ∧ x.toInt64 < 2 ^ 63 := by
  obtain ⟨n, hn⟩ := h.whole
  have hlow := h.least_le
  have hhigh := h.lt_range
  rw [hn] at hlow hhigh
  have hlow' : -2 ^ 63 ≤ n := by exact_mod_cast hlow
  have hhigh' : n < 2 ^ 63 := by exact_mod_cast hhigh
  rw [toInt64_eq h.finite hn hlow' hhigh', hn]
  exact ⟨rfl, hlow', hhigh'⟩

theorem Binary64.isInt64_of_isZero (h : x.isZero = true) : x.IsInt64 ∧ x.toInt64 = 0 := by
  have hx : x.isFinite = true := by
    cases x with
    | finite s m e hc => rfl
    | _ => cases h
  have hzero := (isZero_iff hx).mp h
  have hint : x.IsInt64 :=
    ⟨hx, ⟨0, by rw [hzero, Int.cast_zero]⟩, by rw [hzero]; norm_num, by rw [hzero]; norm_num⟩
  refine ⟨hint, ?_⟩
  have hvalue := hint.toInt64.1
  rw [hzero] at hvalue
  exact_mod_cast hvalue

/-! ## Bounds -/

theorem limitToJson_of_isInt64 (h : x.IsInt64) :
    limitToJson x = .int x.toInt64 ∧ writeLimit x = toString x.toInt64 := by
  have hlimit := (isIntegerLimit_iff x).mpr h
  rw [limitToJson, writeLimit, if_pos hlimit, if_pos hlimit]
  exact ⟨rfl, rfl⟩

theorem limitToJson_of_not_isInt64 (h : ¬ x.IsInt64) :
    isIntegerLimit x = false ∧
      limitToJson x = (if x.isFinite then .float x else .null) ∧
      writeLimit x = Json.writeFloat x := by
  have hlimit : isIntegerLimit x = false := Bool.eq_false_iff.mpr (mt (isIntegerLimit_iff x).mp h)
  rw [limitToJson, writeLimit, hlimit]
  exact ⟨rfl, rfl, rfl⟩

/-- A document stands for a bound on values: the integer of 64 bits that the bound is equal to, or
the bound itself if there is none. For what is no finite number stands `null`. -/
inductive LimitHeldAs (x : Binary64) : Json → Prop where
  | integer (n : ℤ) : x.IsInt64 → x.toRat = n → LimitHeldAs x (.int n)
  | float : x.isFinite = true → ¬ x.IsInt64 → LimitHeldAs x (.float x)
  | notFinite : x.isFinite = false → LimitHeldAs x .null

theorem limitHeldAs_iff {document : Json} :
    LimitHeldAs x document ↔ document = limitToJson x := by
  constructor
  · rintro (⟨n, h, hn⟩ | ⟨hx, h⟩ | hx)
    · rw [(limitToJson_of_isInt64 h).1]
      exact congrArg Json.int (Int.cast_injective (h.toInt64.1.trans hn)).symm
    · rw [(limitToJson_of_not_isInt64 h).2.1, if_pos hx]
    · have h : ¬ x.IsInt64 := fun h => Bool.false_ne_true (hx.symm.trans h.finite)
      rw [(limitToJson_of_not_isInt64 h).2.1, hx, if_neg Bool.false_ne_true]
  · rintro rfl
    by_cases h : x.IsInt64
    · rw [(limitToJson_of_isInt64 h).1]
      exact .integer x.toInt64 h h.toInt64.1.symm
    · rw [(limitToJson_of_not_isInt64 h).2.1]
      cases hx : x.isFinite with
      | true => exact .float hx h
      | false => exact .notFinite hx

end FieldMap
