import FieldMap.Proofs.Forms

/-!
# Links

The scheme of a link is what a regular expression finds there (`Grammar.linkScheme?_eq_some_iff`):
`[a-z][a-z0-9.+-]*` before `://`, in either letter case (`Grammar.schemeForm`), and
`[^\s/?#]+(?:[/?#]\S*)?` after it (`Grammar.locationForm`). For schemes of ASCII characters this is
a plain rule about what stands on the two sides of `://` (`Validator.IsLink`), which the letter case
of the scheme does not matter to (`Validator.check_url_accepts`).
-/

namespace FieldMap

open scoped Computability

namespace Grammar

variable {text scheme location : List Char} {c : Char}

/-! ## What stands before and after the slashes -/

/-- Schemes of links, in either letter case. -/
def schemeForm : Language Char :=
  one isSchemeLetter * (one isSchemeChar)∗

/-- What follows the slashes: a host, and then, from the first character that can end it on,
anything without blanks. -/
def locationForm : Language Char :=
  run (fun c => !Text.isBlank c && !endsHost c) * (1 + one endsHost * (one (!Text.isBlank ·))∗)

theorem isScheme_iff_mem_schemeForm : isScheme scheme = true ↔ scheme ∈ schemeForm := by
  rw [schemeForm, mem_one_mul_kstar_iff]
  cases scheme <;> simp [isScheme]

theorem endsHost_eq_false_iff : endsHost c = false ↔ c ≠ '/' ∧ c ≠ '?' ∧ c ≠ '#' := by
  simp [endsHost, and_assoc]

theorem isLocation_eq_true_iff : isLocation location = true ↔ location ≠ [] ∧
    (∀ c ∈ location, Text.isBlank c = false) ∧
    ∀ c, location.head? = some c → endsHost c = false := by
  cases location <;> simp [isLocation, and_comm]

theorem mem_locationForm_of_isLocation (h : isLocation location = true) :
    location ∈ locationForm := by
  obtain ⟨hne, hblank, hhead⟩ := isLocation_eq_true_iff.mp h
  -- The host is what stands before the first character that can end it.
  refine Language.mem_mul.mpr ⟨location.takeWhile (!endsHost ·),
    mem_run_iff.mpr ⟨?_, fun c hc => ?_⟩, location.dropWhile (!endsHost ·), ?_,
    List.takeWhile_append_dropWhile⟩
  · obtain ⟨c, tail, rfl⟩ := List.exists_cons_of_ne_nil hne
    rw [List.takeWhile_cons_of_pos (by rw [hhead c rfl]; rfl)]
    exact List.cons_ne_nil _ _
  · have hhost : (!endsHost c) = true := List.all_eq_true.mp List.all_takeWhile c hc
    rw [hblank c ((List.takeWhile_sublist _).mem hc), hhost]
    rfl
  · cases hrest : location.dropWhile (!endsHost ·) with
    | nil => exact .inl ((Language.mem_one _).mpr rfl)
    | cons c tail =>
      have hsub : (c :: tail).Sublist location := hrest ▸ List.dropWhile_sublist _
      have hends : (!endsHost c) = false := by
        have := List.head?_dropWhile_not (!endsHost ·) location
        rwa [hrest] at this
      rw [Bool.not_eq_false'] at hends
      refine .inr (mem_one_mul_kstar_iff.mpr ⟨c, tail, rfl, hends, fun d hd => ?_⟩)
      rw [hblank d (hsub.mem (List.mem_cons_of_mem c hd))]
      rfl

theorem isBlank_of_endsHost (h : endsHost c = true) : Text.isBlank c = false := by
  simp only [endsHost, Bool.or_eq_true, decide_eq_true_eq] at h
  rcases h with (rfl | rfl) | rfl <;> decide

theorem isLocation_of_mem_locationForm (h : location ∈ locationForm) :
    isLocation location = true := by
  obtain ⟨host, hhost, rest, hrest, rfl⟩ := Language.mem_mul.mp h
  obtain ⟨hne, hhost⟩ := mem_run_iff.mp hhost
  have hblank : ∀ c ∈ rest, Text.isBlank c = false := by
    rcases hrest with hrest | hrest
    · rw [(Language.mem_one _).mp hrest]
      exact nofun
    · obtain ⟨c, tail, rfl, hc, ht⟩ := mem_one_mul_kstar_iff.mp hrest
      simp only [Bool.not_eq_true'] at ht
      exact List.forall_mem_cons.mpr ⟨isBlank_of_endsHost hc, ht⟩
  simp only [Bool.and_eq_true, Bool.not_eq_true'] at hhost
  refine isLocation_eq_true_iff.mpr ⟨List.append_ne_nil_of_left_ne_nil hne _, fun c hc => ?_,
    fun c hc => ?_⟩
  · exact (List.mem_append.mp hc).elim (fun hc => (hhost c hc).1) (hblank c)
  · obtain ⟨d, tail, rfl⟩ := List.exists_cons_of_ne_nil hne
    rw [← Option.some.inj hc]
    exact (hhost d List.mem_cons_self).2

/-! ## Schemes -/

theorem isSchemeChar_of_mem (h : isScheme scheme = true) (hc : c ∈ scheme) :
    isSchemeChar c = true := by
  cases scheme with
  | nil => cases hc
  | cons first tail =>
    rw [isScheme, Bool.and_eq_true, List.all_eq_true] at h
    rcases List.mem_cons.mp hc with rfl | hc
    · rw [isSchemeChar, h.1]
      rfl
    · exact h.2 c hc

theorem not_mem_of_isScheme (h : isScheme scheme = true) : ':' ∉ scheme := fun hc =>
  absurd (isSchemeChar_of_mem h hc) (by decide)

theorem append_slashes (scheme location : List Char) :
    scheme ++ "://".toList ++ location = scheme ++ ':' :: '/' :: '/' :: location := by
  simp

/-- The scheme is found exactly where the two sides of the slashes have their forms. -/
theorem linkScheme?_eq_some_iff : linkScheme? text = some scheme ↔
    ∃ location, text = scheme ++ "://".toList ++ location ∧ isScheme scheme = true ∧
      isLocation location = true := by
  constructor
  · intro h
    rw [linkScheme?] at h
    split at h <;> [skip; cases h]
    rename_i location hrest
    split at h <;> [skip; cases h]
    rename_i hparts
    cases h
    rw [Bool.and_eq_true] at hparts
    refine ⟨location, ?_, hparts⟩
    rw [append_slashes, ← hrest, List.takeWhile_append_dropWhile]
  · rintro ⟨location, rfl, hs, hl⟩
    have hn := not_mem_of_isScheme hs
    rw [append_slashes, linkScheme?, takeWhile_ne_append hn, dropWhile_ne_append hn]
    show (if isScheme scheme && isLocation location then some scheme else none) = _
    rw [hs, hl]
    rfl

theorem isSchemeLetter_of_ascii (h : c.toNat < 128) : isSchemeLetter c = c.isAlpha := by
  have hne (d : Char) (hd : 128 ≤ d.toNat) : c ≠ d := by
    rintro rfl
    exact absurd h (Nat.not_lt.mpr hd)
  rw [isSchemeLetter, decide_eq_false (hne 'ſ' (by decide)),
    decide_eq_false (hne '\u212A' (by decide)), Bool.or_false, Bool.or_false]

theorem isSchemeChar_of_ascii (h : c.toNat < 128) : isSchemeChar c = true ↔
    c.isAlphanum = true ∨ c = '.' ∨ c = '+' ∨ c = '-' := by
  rw [isSchemeChar, isSchemeLetter_of_ascii h, ← Char.isAlphanum]
  simp only [Bool.or_eq_true, decide_eq_true_eq, or_assoc]

/-- The letter case of ASCII characters makes no difference to a scheme. -/
theorem isScheme_map_toLower (h : ∀ c ∈ scheme, c.toNat < 128) :
    isScheme (scheme.map Char.toLower) = isScheme scheme := by
  have hcase {c : Char} (hc : c.toNat < 128) :
      isSchemeLetter c.toLower = isSchemeLetter c ∧ isSchemeChar c.toLower = isSchemeChar c :=
    Text.forall_ascii (P := fun c => isSchemeLetter c.toLower = isSchemeLetter c ∧
      isSchemeChar c.toLower = isSchemeChar c) (by decide +kernel) hc
  cases scheme with
  | nil => rfl
  | cons c tail =>
    obtain ⟨hc, ht⟩ := List.forall_mem_cons.mp h
    have htail : tail.all (isSchemeChar ∘ Char.toLower) = tail.all isSchemeChar := by
      rw [Bool.eq_iff_iff, List.all_eq_true, List.all_eq_true]
      exact forall₂_congr fun d hd => by rw [Function.comp_apply, (hcase (ht d hd)).2]
    rw [List.map_cons, isScheme, isScheme, (hcase hc).1, List.all_map, htail]

/-- The lower case of a character of schemes is no capital, and it is a character of ASCII or the
long s. -/
theorem lowerForm_of_isSchemeChar (h : isSchemeChar c = true) :
    c ≠ 'Σ' ∧ ∀ d ∈ Text.lowerForm c, d.isUpper = false ∧ (d.toNat < 128 ∨ d = 'ſ') := by
  have hall : c.toNat < 128 ∨ c = 'ſ' ∨ c = '\u212A' := by
    rw [isSchemeChar, isSchemeLetter] at h
    simp only [Bool.or_eq_true, decide_eq_true_eq, or_assoc] at h
    obtain h | h | h | h | rfl | rfl | rfl := h
    · exact .inl (Text.toNat_lt_of_isAlphanum (by rw [Char.isAlphanum, h]; rfl))
    · exact .inr (.inl h)
    · exact .inr (.inr h)
    · exact .inl (Text.toNat_lt_of_isAlphanum (by rw [Char.isAlphanum, h, Bool.or_true]))
    all_goals exact .inl (by decide)
  rcases hall with hc | rfl | rfl
  · have hlower : c.toLower.isUpper = false ∧ c.toLower.toNat < 128 :=
      Text.forall_ascii (P := fun c => c.toLower.isUpper = false ∧ c.toLower.toNat < 128)
        (by decide +kernel) hc
    refine ⟨?_, fun d hd => ?_⟩
    · rintro rfl
      exact absurd hc (by decide)
    · rw [Text.lowerForm_ascii hc, List.mem_singleton] at hd
      exact hd ▸ ⟨hlower.1, .inl hlower.2⟩
  · have hlower : Text.lowerForm 'ſ' = ['ſ'] := by decide +kernel
    rw [hlower]
    exact ⟨by decide, List.forall_mem_singleton.mpr ⟨by decide, .inr rfl⟩⟩
  · have hlower : Text.lowerForm '\u212A' = ['k'] := by decide +kernel
    rw [hlower]
    exact ⟨by decide, List.forall_mem_singleton.mpr ⟨by decide, .inl (by decide)⟩⟩

theorem mem_lowercaseAfter {before : List Char} (h : ∀ c ∈ scheme, isSchemeChar c = true)
    (hc : c ∈ Text.lowercaseAfter before scheme) :
    c.isUpper = false ∧ (c.toNat < 128 ∨ c = 'ſ') := by
  induction scheme generalizing before with
  | nil => cases hc
  | cons d tail ih =>
    obtain ⟨hd, ht⟩ := List.forall_mem_cons.mp h
    obtain ⟨hne, hform⟩ := lowerForm_of_isSchemeChar hd
    rw [Text.lowercaseAfter, if_neg hne, List.mem_append] at hc
    exact hc.elim (hform c) (ih ht)

end Grammar

/-! ## Validators of links -/

namespace Validator

open Grammar

/-- The characters before the first colon of a text, if it has one, are those of ASCII. -/
def IsAsciiToColon (text : List Char) : Prop :=
  ':' ∈ text → ∀ c ∈ text.takeWhile (· ≠ ':'), c.toNat < 128

/-- A text is a link with one of the schemes. -/
structure IsLink (schemes : List String) (text scheme location : List Char) : Prop where
  split : text = scheme ++ "://".toList ++ location
  beforeColon : scheme = text.takeWhile (· ≠ ':')
  /-- A letter, and then letters, digits, points, plus signs and hyphens. -/
  chars : ∃ c tail, scheme = c :: tail ∧ c.isAlpha = true ∧
    ∀ d ∈ tail, d.isAlphanum = true ∨ d = '.' ∨ d = '+' ∨ d = '-'
  listed : Text.lowercase (String.ofList scheme) ∈ schemes
  nonempty : location ≠ []
  noBlank : ∀ c ∈ location, Text.isBlank c = false
  start : ∀ c, location.head? = some c → c ≠ '/' ∧ c ≠ '?' ∧ c ≠ '#'

variable {schemes : List String} {text scheme location : List Char}

theorem isUrl_eq_true_iff : isUrl schemes text = true ↔ ∃ scheme location,
    text = scheme ++ "://".toList ++ location ∧ isScheme scheme = true ∧
      isLocation location = true ∧ Text.lowercase (String.ofList scheme) ∈ schemes := by
  rw [isUrl]
  cases h : linkScheme? text with
  | none =>
    refine iff_of_false Bool.false_ne_true ?_
    rintro ⟨scheme, location, he, hs, hl, -⟩
    rw [linkScheme?_eq_some_iff.mpr ⟨location, he, hs, hl⟩] at h
    cases h
  | some scheme =>
    show schemes.contains _ = true ↔ _
    rw [List.contains_iff_mem]
    constructor
    · intro hm
      obtain ⟨location, he, hs, hl⟩ := linkScheme?_eq_some_iff.mp h
      exact ⟨scheme, location, he, hs, hl, hm⟩
    · rintro ⟨scheme', location, he, hs, hl, hm⟩
      rw [linkScheme?_eq_some_iff.mpr ⟨location, he, hs, hl⟩] at h
      cases h
      exact hm

/-- Links are what the regular expressions of their parts match. -/
theorem isUrl_iff_mem : isUrl schemes text = true ↔
    ∃ scheme ∈ schemeForm, ∃ location ∈ locationForm, text = scheme ++ "://".toList ++ location ∧
      Text.lowercase (String.ofList scheme) ∈ schemes := by
  rw [isUrl_eq_true_iff]
  constructor
  · rintro ⟨scheme, location, he, hs, hl, hm⟩
    exact ⟨scheme, isScheme_iff_mem_schemeForm.mp hs, location,
      mem_locationForm_of_isLocation hl, he, hm⟩
  · rintro ⟨scheme, hs, location, hl, he, hm⟩
    exact ⟨scheme, location, he, isScheme_iff_mem_schemeForm.mpr hs,
      isLocation_of_mem_locationForm hl, hm⟩

theorem isUrl_iff_isLink (h : IsAsciiToColon text) :
    isUrl schemes text = true ↔ ∃ scheme location, IsLink schemes text scheme location := by
  rw [isUrl_eq_true_iff]
  constructor
  · rintro ⟨scheme, location, he, hs, hl, hm⟩
    have hcolon : scheme = text.takeWhile (· ≠ ':') := by
      rw [he, append_slashes, takeWhile_ne_append (not_mem_of_isScheme hs)]
    have hascii : ∀ c ∈ scheme, c.toNat < 128 := by
      rw [hcolon]
      exact h (by rw [he]; simp)
    obtain ⟨hne, hblank, hstart⟩ := isLocation_eq_true_iff.mp hl
    refine ⟨scheme, location, he, hcolon, ?_, hm, hne, hblank, fun c hc => ?_⟩
    · cases scheme with
      | nil => cases hs
      | cons c tail =>
        obtain ⟨hc, ht⟩ := List.forall_mem_cons.mp hascii
        rw [isScheme, Bool.and_eq_true, List.all_eq_true, isSchemeLetter_of_ascii hc] at hs
        exact ⟨c, tail, rfl, hs.1, fun d hd => (isSchemeChar_of_ascii (ht d hd)).mp (hs.2 d hd)⟩
    · exact endsHost_eq_false_iff.mp (hstart c hc)
  · rintro ⟨scheme, location, hlink⟩
    have hascii : ∀ c ∈ scheme, c.toNat < 128 := by
      rw [hlink.beforeColon]
      exact h (by rw [hlink.split]; simp)
    refine ⟨scheme, location, hlink.split, ?_,
      isLocation_eq_true_iff.mpr ⟨hlink.nonempty, hlink.noBlank, fun c hc => ?_⟩, hlink.listed⟩
    · obtain ⟨c, tail, rfl, hc, ht⟩ := hlink.chars
      obtain ⟨hca, hta⟩ := List.forall_mem_cons.mp hascii
      rw [isScheme, Bool.and_eq_true, List.all_eq_true, isSchemeLetter_of_ascii hca]
      exact ⟨hc, fun d hd => (isSchemeChar_of_ascii (hta d hd)).mpr (ht d hd)⟩
    · exact endsHost_eq_false_iff.mpr (hlink.start c hc)

/-- Whether a text is a link is told by what stands before and after its first colon. -/
theorem isUrl_append_iff (h : ':' ∉ scheme) {rest : List Char} :
    isUrl schemes (scheme ++ ':' :: rest) = true ↔
      (∃ location, rest = '/' :: '/' :: location ∧ isLocation location = true) ∧
        isScheme scheme = true ∧ Text.lowercase (String.ofList scheme) ∈ schemes := by
  rw [isUrl_eq_true_iff]
  constructor
  · rintro ⟨scheme', location, he, hs, hl, hm⟩
    rw [append_slashes] at he
    obtain ⟨rfl, rfl⟩ := append_cons_inj h (not_mem_of_isScheme hs) he
    exact ⟨⟨location, rfl, hl⟩, hs, hm⟩
  · rintro ⟨⟨location, rfl, hl⟩, hs, hm⟩
    exact ⟨scheme, location, (append_slashes scheme location).symm, hs, hl, hm⟩

/-- Links that differ in the letter case of their schemes are links both or neither. -/
theorem isUrl_congr_scheme {scheme' : List Char} (h : ':' ∉ scheme) (h' : ':' ∉ scheme')
    (ha : ∀ c ∈ scheme, c.toNat < 128) (ha' : ∀ c ∈ scheme', c.toNat < 128)
    (he : scheme.map Char.toLower = scheme'.map Char.toLower) (rest : List Char) :
    isUrl schemes (scheme ++ ':' :: rest) = isUrl schemes (scheme' ++ ':' :: rest) := by
  have hlower {scheme : List Char} (ha : ∀ c ∈ scheme, c.toNat < 128) :
      Text.lowercase (String.ofList scheme) = String.ofList (scheme.map Char.toLower) := by
    rw [Text.lowercase, String.toList_ofList, Text.lowercaseAfter_ascii ha]
  rw [Bool.eq_iff_iff, isUrl_append_iff h, isUrl_append_iff h', hlower ha, hlower ha',
    ← isScheme_map_toLower ha, ← isScheme_map_toLower ha', he]

/-- A listed scheme with a capital makes no difference. -/
theorem isUrl_filter_ne {allowed : String}
    (h : ∃ c ∈ allowed.toList, c.isUpper = true ∨ 128 ≤ c.toNat ∧ c ≠ 'ſ') (text : List Char) :
    isUrl (schemes.filter (· ≠ allowed)) text = isUrl schemes text := by
  rw [Bool.eq_iff_iff, isUrl_eq_true_iff, isUrl_eq_true_iff]
  refine exists_congr fun scheme => exists_congr fun location =>
    and_congr_right fun _ => and_congr_right fun hs => and_congr_right fun _ => ?_
  rw [List.mem_filter, decide_eq_true_eq]
  refine and_iff_left ?_
  rintro rfl
  obtain ⟨c, hc, hcapital⟩ := h
  rw [Text.lowercase, String.toList_ofList, String.toList_ofList] at hc
  obtain ⟨hupper, hascii⟩ := mem_lowercaseAfter (fun d => isSchemeChar_of_mem hs) hc
  rcases hcapital with hcapital | ⟨hcapital, hne⟩
  · rw [hupper] at hcapital
    cases hcapital
  · exact hascii.elim (Nat.not_lt.mpr hcapital) hne

theorem isUrl_of_getLast? {c : Char} (hc : text.getLast? = some c) (hb : Text.isBlank c = true) :
    isUrl schemes text = false := by
  rw [← Bool.not_eq_true, isUrl_eq_true_iff]
  rintro ⟨scheme, location, rfl, -, hl, -⟩
  obtain ⟨hne, hblank, -⟩ := isLocation_eq_true_iff.mp hl
  rw [List.getLast?_append_of_ne_nil _ hne] at hc
  rw [hblank c (List.mem_of_getLast? hc)] at hb
  cases hb

/-- Exactly the texts are accepted whose scheme and location have their forms, the scheme being
listed in lower case. For schemes of ASCII characters this is `IsLink`, and their letter case does
not matter. A listed scheme with a capital could as well be missing; the long s, which lower case
leaves as it is, is the one character outside ASCII that a listed scheme can be matched with. -/
theorem check_url_accepts (schemes : List String) :
    (∀ s, (url schemes).check (.string s) = .ok () ↔
      ∃ scheme ∈ schemeForm, ∃ location ∈ locationForm,
        s.toList = scheme ++ "://".toList ++ location ∧
          Text.lowercase (String.ofList scheme) ∈ schemes) ∧
    (∀ s, IsAsciiToColon s.toList → ((url schemes).check (.string s) = .ok () ↔
      ∃ scheme location, IsLink schemes s.toList scheme location)) ∧
    (∀ scheme scheme' rest, ':' ∉ scheme → ':' ∉ scheme' → (∀ c ∈ scheme, c.toNat < 128) →
      (∀ c ∈ scheme', c.toNat < 128) → scheme.map Char.toLower = scheme'.map Char.toLower →
      (url schemes).check (.string (String.ofList (scheme ++ ':' :: rest))) =
        (url schemes).check (.string (String.ofList (scheme' ++ ':' :: rest)))) ∧
    (∀ allowed, (∃ c ∈ allowed.toList, c.isUpper = true ∨ 128 ≤ c.toNat ∧ c ≠ 'ſ') →
      ∀ value, (url (schemes.filter (· ≠ allowed))).check value = (url schemes).check value) ∧
    (∀ s, s.toList.getLast? = some '\n' → (url schemes).check (.string s) ≠ .ok ()) ∧
    (∀ value e, (url schemes).check value = .error e →
      e = .ofMessage "Enter a valid URL." "invalid") ∧
    ∀ value, (∀ s, value ≠ .string s) → (url schemes).check value = .ok () := by
  have hcheck (schemes : List String) (value : Value) : (url schemes).check value =
      onText value fun text => demand (isUrl schemes text) "Enter a valid URL." "invalid" := rfl
  have hok (s : String) :
      (url schemes).check (.string s) = .ok () ↔ isUrl schemes s.toList = true := by
    rw [hcheck, onText_string, demand_eq_ok_iff]
  refine ⟨fun s => (hok s).trans isUrl_iff_mem, fun s h => (hok s).trans (isUrl_iff_isLink h),
    fun scheme scheme' rest h h' ha ha' he => ?_, fun allowed h value => ?_, fun s hs => ?_,
    fun value e he => ?_, fun value hv => (hcheck schemes value).trans (onText_of_not_string hv _)⟩
  · rw [hcheck, hcheck, onText_string, onText_string, String.toList_ofList, String.toList_ofList,
      isUrl_congr_scheme h h' ha ha' he]
  · simp only [hcheck, isUrl_filter_ne h]
  · rw [ne_eq, hok, isUrl_of_getLast? hs (by decide)]
    exact Bool.false_ne_true
  · obtain ⟨-, -, -, h⟩ := onText_demand_eq_error_iff.mp he
    exact h

example : (url ["http"]).accepts (.string "HTTP://a.b?c") = true ∧
    (url ["HTTP"]).accepts (.string "HTTP://a.b?c") = false := by
  decide

end Validator

end FieldMap
