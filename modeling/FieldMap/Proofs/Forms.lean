import FieldMap.Proofs.LetterCase
import FieldMap.Validator.Basic
import Mathlib.Computability.Language

/-!
# Forms of texts

Forms as regular languages, made of the texts of one character (`Grammar.one`) by putting languages
side by side, `*`, and by repeating them, `∗`; `Grammar.run` is one or more characters of a class.
What is in them is told by their characters (`Grammar.mem_kstar_one_iff`, `Grammar.mem_run_iff`). A
validator that asks a form of texts accepts everything else, and has one thing to say of all texts
that it refuses (`Validator.onText_demand_eq_error_iff`).
-/

namespace FieldMap

open scoped Computability

namespace Grammar

variable {ofClass first rest : Char → Bool} {text : List Char} {c : Char}

/-! ## Regular languages -/

/-- The texts of one character of a class. -/
def one (ofClass : Char → Bool) : Language Char :=
  {text | ∃ c, ofClass c = true ∧ text = [c]}

/-- The texts of one or more characters of a class. -/
def run (ofClass : Char → Bool) : Language Char :=
  one ofClass * (one ofClass)∗

/-- Characters of a class are repeated in the texts of that class. -/
theorem mem_kstar_one_iff : text ∈ (one ofClass)∗ ↔ ∀ c ∈ text, ofClass c = true := by
  rw [Language.mem_kstar]
  constructor
  · rintro ⟨parts, rfl, hparts⟩ c hc
    obtain ⟨part, hp, hc⟩ := List.mem_flatten.mp hc
    obtain ⟨d, hd, rfl⟩ := hparts part hp
    rwa [List.mem_singleton.mp hc]
  · intro h
    refine ⟨text.map fun c => [c], ?_, fun part hp => ?_⟩
    · rw [← List.flatMap_def, List.flatMap_singleton']
    · obtain ⟨c, hc, rfl⟩ := List.mem_map.mp hp
      exact ⟨c, h c hc, rfl⟩

/-- A character of one class, and then any of another. -/
theorem mem_one_mul_kstar_iff : text ∈ one first * (one rest)∗ ↔
    ∃ c tail, text = c :: tail ∧ first c = true ∧ ∀ d ∈ tail, rest d = true := by
  rw [Language.mem_mul]
  constructor
  · rintro ⟨head, ⟨c, hc, rfl⟩, tail, ht, rfl⟩
    exact ⟨c, tail, rfl, hc, mem_kstar_one_iff.mp ht⟩
  · rintro ⟨c, tail, rfl, hc, ht⟩
    exact ⟨[c], ⟨c, hc, rfl⟩, tail, mem_kstar_one_iff.mpr ht, rfl⟩

theorem mem_run_iff : text ∈ run ofClass ↔ text ≠ [] ∧ ∀ c ∈ text, ofClass c = true := by
  rw [run, mem_one_mul_kstar_iff]
  constructor
  · rintro ⟨c, tail, rfl, hc, ht⟩
    exact ⟨List.cons_ne_nil c tail, List.forall_mem_cons.mpr ⟨hc, ht⟩⟩
  · rintro ⟨hne, h⟩
    obtain ⟨c, tail, rfl⟩ := List.exists_cons_of_ne_nil hne
    exact ⟨c, tail, rfl, List.forall_mem_cons.mp h⟩

theorem not_mem_of_mem_run (h : text ∈ run ofClass) (hc : ofClass c = false) : c ∉ text := by
  intro hm
  rw [(mem_run_iff.mp h).2 c hm] at hc
  cases hc

theorem isRun_iff_mem_run : isRun ofClass text = true ↔ text ∈ run ofClass := by
  rw [mem_run_iff, isRun, Bool.and_eq_true, Bool.not_eq_true', ← Bool.not_eq_true,
    List.isEmpty_iff, List.all_eq_true]

/-! ## Texts cut at a character -/

theorem takeWhile_ne_append {separator : Char} {before : List Char} (h : separator ∉ before)
    (after : List Char) : (before ++ separator :: after).takeWhile (· ≠ separator) = before := by
  rw [List.takeWhile_append_of_pos fun d hd => decide_eq_true (ne_of_mem_of_not_mem hd h),
    List.takeWhile_cons_of_neg (by simp), List.append_nil]

theorem dropWhile_ne_append {separator : Char} {before : List Char} (h : separator ∉ before)
    (after : List Char) :
    (before ++ separator :: after).dropWhile (· ≠ separator) = separator :: after := by
  rw [List.dropWhile_append_of_pos fun d hd => decide_eq_true (ne_of_mem_of_not_mem hd h),
    List.dropWhile_cons_of_neg (by simp)]

/-- A text is cut at the first occurrence of a separator in one way. -/
theorem append_cons_inj {separator : Char} {before before' after after' : List Char}
    (h : separator ∉ before) (h' : separator ∉ before')
    (he : before ++ separator :: after = before' ++ separator :: after') :
    before = before' ∧ after = after' := by
  have hbefore : before = before' := by
    rw [← takeWhile_ne_append h after, he, takeWhile_ne_append h']
  subst hbefore
  exact ⟨rfl, (List.cons.inj (List.append_cancel_left he)).2⟩

end Grammar

/-! ## Verdicts -/

namespace Validator

variable {value : Value} {holds : List Char → Bool} {message code : String}

theorem demand_eq_ok_iff {condition : Bool} :
    demand condition message code = .ok () ↔ condition = true := by
  cases condition <;> simp [demand]

theorem demand_eq_error_iff {condition : Bool} {e : ValidationError} :
    demand condition message code = .error e ↔ condition = false ∧ e = .ofMessage message code := by
  cases condition <;> simp [demand, eq_comm]

theorem onText_string (s : String) (verdict : List Char → Except ValidationError Unit) :
    onText (.string s) verdict = verdict s.toList :=
  rfl

theorem onText_of_not_string (h : ∀ s, value ≠ .string s)
    (verdict : List Char → Except ValidationError Unit) : onText value verdict = .ok () := by
  cases value with
  | string s => exact absurd rfl (h s)
  | _ => rfl

/-- A text is refused with the same words whatever is wrong with it. -/
theorem onText_demand_eq_error_iff {e : ValidationError} :
    onText value (fun text => demand (holds text) message code) = .error e ↔
      ∃ s, value = .string s ∧ holds s.toList = false ∧ e = .ofMessage message code := by
  cases value with
  | string s =>
    rw [onText_string, demand_eq_error_iff]
    exact ⟨fun h => ⟨s, rfl, h⟩, fun ⟨_, hs, h⟩ => Value.string.inj hs ▸ h⟩
  | _ => exact iff_of_false nofun nofun

end Validator

end FieldMap
