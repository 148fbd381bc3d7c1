import FieldMap.Proofs.Documents
import FieldMap.Proofs.NumberTokens

/-!
# Bounds on values in documents

A bound on values is written as an integer exactly if it is whole and fits 64 bits with a sign
(`exists_writeLimit_eq_toString_iff`), and then it is equal to the integer. All other finite bounds
are written in floating point, and what is not finite becomes `null`. Nothing of a finite bound is
lost (`limit_losesNothing`): the text of an integer is read as this integer, and all texts are read
back as the bound by whoever takes the nearest number.
-/

namespace FieldMap

open Binary64

variable {x : Binary64}

/-- Only integers of 64 bits are written as integers. -/
theorem exists_writeLimit_eq_toString_iff (x : Binary64) :
    (∃ n : ℤ, writeLimit x = toString n) ↔ x.IsInt64 := by
  refine ⟨fun ⟨n, hn⟩ => ?_, fun h => ⟨_, (limitToJson_of_isInt64 h).2⟩⟩
  by_contra hx
  rw [(limitToJson_of_not_isInt64 hx).2.2] at hn
  cases hfinite : x.isFinite with
  | true => exact (Json.writeFloat_isFloat hfinite).1 n hn
  | false =>
    rw [Json.writeFloat, hfinite, if_neg Bool.false_ne_true] at hn
    have hmem := Json.mem_toString_int (hn ▸ (by decide : 'n' ∈ "null".toList))
    exact absurd hmem (by decide)

/-! ## What is written and read back -/

/-- The value of a number in a document. -/
def Json.number? : Json → Option ℚ
  | .int n => some n
  | .float x => if x.isFinite then some x.toRat else none
  | _ => none

/-- The reader of documents takes the text of a number in floating point back to the number. It need
not do so, since it multiplies rounded digits by a rounded power of ten. -/
def RoundTrips (x : Binary64) : Prop :=
  ∃ document, Json.parse? (Json.writeFloat x) = some document ∧ document.number? = some x.toRat

/-- A bound is written as a document and a text from which it can be told. -/
structure WritesLimit (x : Binary64) (document : Json) (text : String) : Prop where
  write_document : document.write = text
  /-- The integers of 64 bits are written as integers, and nothing else is. -/
  integer_iff : (∃ n : ℤ, text = toString n) ↔ x.IsInt64
  /-- The conversion changes nothing, and the integer is read back. -/
  integer : x.IsInt64 → document = .int x.toInt64 ∧ text = toString x.toInt64 ∧
    (x.toInt64 : ℚ) = x.toRat ∧ -2 ^ 63 ≤ x.toInt64 ∧ x.toInt64 < 2 ^ 63 ∧
    Json.parse? text = some document
  /-- Zero of either sign. -/
  zero : x.isZero = true → document = .int 0 ∧ text = "0"
  /-- All other finite bounds are written in floating point, and are read as no integer. -/
  float : x.isFinite = true → ¬ x.IsInt64 → document = .float x ∧ text = Json.writeFloat x ∧
    ∀ other, Json.parse? text = some other → ∃ y, other = .float y
  /-- Infinities and what is no number are not whole. -/
  notFinite : x.isFinite = false →
    isIntegerLimit x = false ∧ document = .null ∧ text = "null"
  /-- Taking the nearest number, a reader has the bound again. -/
  readsBack : x.isFinite = true →
    ∃ y, ofText? text = some y ∧ y.isFinite = true ∧ y.toRat = x.toRat
  /-- So has the reader of documents, as far as it takes numbers in floating point back. -/
  readsBack_number : x.isFinite = true → (¬ x.IsInt64 → RoundTrips x) →
    ∃ other, Json.parse? text = some other ∧ other.number? = some x.toRat

/-- Arguments have a member in their document, and in their text. -/
structure Arguments.HasMember (a : Arguments) (name : String) (document : Json) (text : String) :
    Prop where
  member : ∃ members, a.toJson = .object members ∧ Json.member? name members = some document
  text : ∃ before after, a.write = writeObject (before ++ (name, text) :: after)

theorem Arguments.hasMember_of_slot {a : Arguments} (key : Key) {content : key.Content}
    (h : a.slot key = some content) :
    a.HasMember key.name (key.document content) (key.document content).write := by
  have hmember := a.member?_members key
  rw [h, Option.map_some] at hmember
  refine ⟨⟨a.members, a.toJson_eq, hmember⟩, ?_⟩
  obtain ⟨before, after, hsplit⟩ := List.append_of_mem (Json.mem_of_member? hmember)
  rw [← write_toJson, toJson_eq, Json.write_object, hsplit, List.map_append, List.map_cons]
  exact ⟨_, _, rfl⟩

theorem writesLimit (x : Binary64) : WritesLimit x (limitToJson x) (writeLimit x) where
  write_document := write_limitToJson x
  integer_iff := exists_writeLimit_eq_toString_iff x
  integer h := by
    obtain ⟨hvalue, hlow, hhigh⟩ := h.toInt64
    obtain ⟨hdocument, htext⟩ := limitToJson_of_isInt64 h
    rw [hdocument, htext]
    exact ⟨rfl, rfl, hvalue, hlow, hhigh, Json.parse?_toString hlow hhigh⟩
  zero h := by
    obtain ⟨hint, hzero⟩ := isInt64_of_isZero h
    obtain ⟨hdocument, htext⟩ := limitToJson_of_isInt64 hint
    rw [hdocument, htext, hzero]
    exact ⟨rfl, rfl⟩
  float hx h := by
    obtain ⟨-, hdocument, htext⟩ := limitToJson_of_not_isInt64 h
    rw [hdocument, htext, if_pos hx]
    exact ⟨rfl, rfl, (Json.writeFloat_isFloat hx).2⟩
  notFinite hx := by
    have h : ¬ x.IsInt64 := fun h => Bool.false_ne_true (hx.symm.trans h.finite)
    obtain ⟨hlimit, hdocument, htext⟩ := limitToJson_of_not_isInt64 h
    rw [hlimit, hdocument, htext, Json.writeFloat, hx]
    exact ⟨rfl, rfl, rfl⟩
  readsBack hx := by
    by_cases h : x.IsInt64
    · rw [(limitToJson_of_isInt64 h).2]
      exact ofText?_toString hx h.toInt64.1.symm
    · rw [(limitToJson_of_not_isInt64 h).2.2, Json.writeFloat, if_pos hx]
      exact jsonLayout.ofText?_write hx
  readsBack_number hx hround := by
    by_cases h : x.IsInt64
    · obtain ⟨hvalue, hlow, hhigh⟩ := h.toInt64
      rw [(limitToJson_of_isInt64 h).2, Json.parse?_toString hlow hhigh]
      exact ⟨_, rfl, congrArg some hvalue⟩
    · rw [(limitToJson_of_not_isInt64 h).2.2]
      exact hround h

/-- Writing a bound on values loses nothing, be it the greatest or the least value of arguments. -/
theorem limit_losesNothing (x : Binary64) :
    WritesLimit x (limitToJson x) (writeLimit x) ∧
    ∀ a : Arguments,
      (a.maxValue = some x → a.HasMember "max_value" (limitToJson x) (writeLimit x)) ∧
      (a.minValue = some x → a.HasMember "min_value" (limitToJson x) (writeLimit x)) := by
  rw [← write_limitToJson]
  refine ⟨write_limitToJson x ▸ writesLimit x, fun a => ⟨fun h => ?_, fun h => ?_⟩⟩
  · exact Arguments.hasMember_of_slot .maxValue h
  · exact Arguments.hasMember_of_slot .minValue h

/-- The ends of the integers of 64 bits, and the negative zero. -/
example : writeLimit (.ofInt (-2 ^ 63)) = "-9223372036854775808" ∧
    writeLimit (.ofInt (2 ^ 63)) = "9.223372036854776e+18" ∧ writeLimit (.zero true) = "0" := by
  decide +kernel

end FieldMap
