import FieldMap.Error
import Mathlib.Algebra.GroupWithZero.Nat
import Mathlib.Data.List.Perm.Basic

/-!
# Texts of compound errors

An error without a message of its own tells the errors of its fields: one entry for each
(`ValidationError.entries`), with separators between them. The text is written entry by entry, and
whether a separator is due is a flag that goes through two loops, one inside the other; the list
written so far is always that of the entries so far (`Listing.Holds`), which one more entry keeps
(`Listing.Holds.add`), and so do all errors of a field and all fields (`Listing.Holds.addErrors`,
`Listing.Holds.addFields`).

The order in which fields are told is that of the text and nothing else: another one gives a
permutation of the same entries (`ValidationError.perm_entries`). Parameters stand in no text, at
no depth (`ValidationError.text_withoutParams`).
-/

namespace FieldMap.ValidationError

variable {e : ValidationError} {listing : Listing} {written : List String}

/-! ## Lists of entries -/

namespace Listing

/-- What has been written of a list: these entries, with separators between them. -/
structure Holds (listing : Listing) (written : List String) : Prop where
  text : listing.text = "; ".intercalate written
  isEmpty : listing.isEmpty = written.isEmpty

theorem holds_nil : Holds {} [] :=
  ⟨String.intercalate_nil.symm, rfl⟩

/-- A separator is written before one more entry exactly if there is an entry before it. -/
theorem Holds.add (h : listing.Holds written) (entry : String) :
    (listing.add entry).Holds (written ++ [entry]) := by
  refine ⟨?_, ?_⟩
  · rw [Listing.add, h.text, h.isEmpty]
    cases written with
    | nil =>
      rw [List.nil_append, String.intercalate_singleton, String.intercalate_nil]
      exact String.empty_append
    | cons first rest =>
      rw [String.intercalate_append_of_ne_nil (List.cons_ne_nil _ _) (List.cons_ne_nil _ _),
        String.intercalate_singleton]
      rfl
  · cases written <;> rfl

end Listing

/-! ## Entries -/

/-- What a field's error adds to the text of the whole. -/
def entry (field : String) (e : ValidationError) : String :=
  field ++ ": " ++ e.text

/-- One entry for each error of each field, fields and errors in order. -/
def entries (e : ValidationError) : List String :=
  e.fieldErrors.flatMap fun (field, errors) => errors.map (entry field)

/-- The errors of a field, by induction on them. -/
theorem Listing.Holds.addErrors (h : listing.Holds written) (field : String)
    (errors : List ValidationError) :
    (addErrors field listing errors).Holds (written ++ errors.map (entry field)) := by
  induction errors generalizing listing written with
  | nil =>
    rw [List.map_nil, List.append_nil]
    exact h
  | cons e rest ih =>
    rw [List.map_cons, List.append_cons]
    exact ih (h.add (entry field e))

/-- The errors of all fields, by induction on the fields. -/
theorem Listing.Holds.addFields (h : listing.Holds written)
    (fieldErrors : List (String × List ValidationError)) :
    (addFields listing fieldErrors).Holds
      (written ++ fieldErrors.flatMap fun (field, errors) => errors.map (entry field)) := by
  induction fieldErrors generalizing listing written with
  | nil =>
    rw [List.flatMap_nil, List.append_nil]
    exact h
  | cons listed rest ih =>
    rw [List.flatMap_cons, ← List.append_assoc]
    exact ih (h.addErrors listed.1 listed.2)

theorem text_of_message (h : e.message ≠ "") : e.text = e.message := by
  obtain ⟨message, code, params, fieldErrors⟩ := e
  rw [text, if_pos h]

/-- Without a message, the text are the entries with separators between them. -/
theorem text_eq_intercalate (h : e.message = "") : e.text = "; ".intercalate e.entries := by
  obtain ⟨message, code, params, fieldErrors⟩ := e
  rw [text, if_neg (not_not_intro h)]
  cases fieldErrors with
  | nil => exact String.intercalate_nil.symm
  | cons listed rest => exact (Listing.holds_nil.addFields (listed :: rest)).text

/-- Texts in a row have their own characters and those of one separator less. -/
theorem length_intercalate (separator : String) (texts : List String) :
    (separator.intercalate texts).length =
      (texts.map String.length).sum + (texts.length - 1) * separator.length := by
  induction texts with
  | nil =>
    rw [String.intercalate_nil, List.length_nil, Nat.zero_sub, Nat.zero_mul]
    rfl
  | cons first rest ih =>
    cases rest with
    | nil => rw [String.intercalate_singleton]; simp
    | cons second rest =>
      rw [String.intercalate_cons_cons, String.length_append, String.length_append, ih]
      simp only [List.map_cons, List.sum_cons, List.length_cons, Nat.add_sub_cancel, Nat.succ_mul]
      omega

theorem entry_ne_empty (field : String) (e : ValidationError) : entry field e ≠ "" := by
  rw [entry, Ne, String.append_eq_empty_iff, String.append_eq_empty_iff]
  exact fun h => absurd h.1.2 (by decide)

theorem ne_empty_of_mem_entries {t : String} (h : t ∈ e.entries) : t ≠ "" := by
  obtain ⟨listed, -, ht⟩ := List.mem_flatMap.mp h
  obtain ⟨error, -, rfl⟩ := List.mem_map.mp ht
  exact entry_ne_empty listed.1 error

theorem entries_eq_nil_iff : e.entries = [] ↔ ∀ listed ∈ e.fieldErrors, listed.2 = [] := by
  simp only [entries, List.flatMap_eq_nil_iff, List.map_eq_nil_iff]

theorem text_eq_empty_iff (h : e.message = "") :
    e.text = "" ↔ ∀ listed ∈ e.fieldErrors, listed.2 = [] := by
  rw [text_eq_intercalate h, ← entries_eq_nil_iff]
  constructor
  · intro hempty
    cases he : e.entries with
    | nil => rfl
    | cons first rest =>
      have hfirst : first ≠ "" := ne_empty_of_mem_entries (he ▸ List.mem_cons_self)
      have hlength := length_intercalate "; " e.entries
      rw [hempty, he, List.map_cons, List.sum_cons, String.length_empty] at hlength
      exact absurd (String.length_eq_zero_iff.mp (by omega)) hfirst
  · intro hnil
    rw [hnil, String.intercalate_nil]

/-! ## What no text tells -/

/-- The error without the fields that have no errors. -/
def withoutEmptyFields (e : ValidationError) : ValidationError :=
  { e with fieldErrors := e.fieldErrors.filter fun (_, errors) => !errors.isEmpty }

theorem entries_withoutEmptyFields (e : ValidationError) :
    e.withoutEmptyFields.entries = e.entries := by
  rw [entries, entries, withoutEmptyFields]
  induction e.fieldErrors with
  | nil => rfl
  | cons listed rest ih =>
    obtain ⟨field, errors⟩ := listed
    cases errors with
    | nil => exact ih
    | cons error errors => exact congrArg ((error :: errors).map (entry field) ++ ·) ih

theorem text_withoutEmptyFields (e : ValidationError) : e.withoutEmptyFields.text = e.text := by
  by_cases h : e.message = ""
  · rw [text_eq_intercalate h, ← e.entries_withoutEmptyFields]
    exact text_eq_intercalate h
  · rw [text_of_message h]
    exact text_of_message h

mutual

/-- The error without its parameters, and without those of all errors in it. -/
def withoutParams : ValidationError → ValidationError
  | ⟨message, code, _, fieldErrors⟩ => ⟨message, code, [], fieldsWithoutParams fieldErrors⟩

/-- The errors of fields without parameters. -/
def fieldsWithoutParams :
    List (String × List ValidationError) → List (String × List ValidationError)
  | [] => []
  | (field, errors) :: rest => (field, errorsWithoutParams errors) :: fieldsWithoutParams rest

/-- The errors of a field without parameters. -/
def errorsWithoutParams : List ValidationError → List ValidationError
  | [] => []
  | e :: rest => e.withoutParams :: errorsWithoutParams rest

end

mutual

theorem text_withoutParams (e : ValidationError) : e.withoutParams.text = e.text := by
  match e with
  | ⟨message, code, params, fieldErrors⟩ =>
    rw [withoutParams, text, text, addFields_withoutParams]
    cases fieldErrors <;> rfl

theorem addFields_withoutParams (listing : Listing)
    (fieldErrors : List (String × List ValidationError)) :
    addFields listing (fieldsWithoutParams fieldErrors) = addFields listing fieldErrors := by
  match fieldErrors with
  | [] => rfl
  | (field, errors) :: rest =>
    rw [fieldsWithoutParams, addFields, addFields, addErrors_withoutParams,
      addFields_withoutParams _ rest]

theorem addErrors_withoutParams (field : String) (listing : Listing)
    (errors : List ValidationError) :
    addErrors field listing (errorsWithoutParams errors) = addErrors field listing errors := by
  match errors with
  | [] => rfl
  | e :: rest =>
    rw [errorsWithoutParams, addErrors, addErrors, text_withoutParams e,
      addErrors_withoutParams field _ rest]

end

/-! ## The order of fields -/

/-- The texts of the errors of each field. -/
def fieldTexts (e : ValidationError) : List (String × List String) :=
  e.fieldErrors.map fun (field, errors) => (field, errors.map text)

theorem entries_eq_flatMap (e : ValidationError) :
    e.entries = e.fieldTexts.flatMap fun (field, texts) => texts.map (field ++ ": " ++ ·) := by
  rw [fieldTexts, List.flatMap_map, entries]
  refine List.flatMap_congr fun listed _ => ?_
  exact (List.map_map ..).symm

/-- In another order of the fields, an error has the same entries in another order. -/
theorem perm_entries {e e' : ValidationError} (h : e.fieldTexts.Perm e'.fieldTexts) :
    e.entries.Perm e'.entries := by
  rw [entries_eq_flatMap, entries_eq_flatMap]
  exact h.flatMap_right _

/-- An error with a message is told by the message alone. Any other one is told by its entries, none
of them empty, with one separator between each two and no other character; the text is empty exactly
if no field has an error. Fields without errors change no text, nor do parameters at any depth, and
another order of the fields is another order of the entries. -/
theorem text_listsEntries (e : ValidationError) :
    (e.message ≠ "" → e.text = e.message) ∧
    (e.message = "" → e.text = "; ".intercalate e.entries ∧
      e.text.length = (e.entries.map String.length).sum + (e.entries.length - 1) * 2 ∧
      (e.text = "" ↔ ∀ listed ∈ e.fieldErrors, listed.2 = [])) ∧
    (∀ t ∈ e.entries, t ≠ "") ∧
    e.withoutEmptyFields.text = e.text ∧
    (∀ e' : ValidationError, e'.withoutParams = e.withoutParams → e'.text = e.text) ∧
    ∀ e' : ValidationError, e'.fieldTexts.Perm e.fieldTexts → e'.entries.Perm e.entries := by
  refine ⟨text_of_message, fun h => ⟨text_eq_intercalate h, ?_, text_eq_empty_iff h⟩,
    fun _ => ne_empty_of_mem_entries, e.text_withoutEmptyFields, fun e' h => ?_,
    fun _ => perm_entries⟩
  · rw [text_eq_intercalate h]
    exact length_intercalate _ _
  · rw [← e'.text_withoutParams, h, text_withoutParams]

/-- Fields without errors leave no trace before, between and after the others; an error that tells
nothing still has its entry. -/
example : (ofFields [("a", []), ("b", [.ofMessage "x" "", .ofFields [("c", [{}]), ("d", [])]]),
    ("e", []), ("f", [.ofMessage "y" ""]), ("g", [])]).text = "b: x; b: c: ; f: y" := by
  cbv

end FieldMap.ValidationError
