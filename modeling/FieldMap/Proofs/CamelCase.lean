import FieldMap.Proofs.LetterCase
import FieldMap.Text.Words
import Mathlib.Data.List.DropRight

/-!
# Where words start in camel case

A name in camel case is split into words in two passes. The first one takes a word with the
character before it and all small letters after its capital, and so passes over a word that follows
these letters at once; the second one finds it there. Together they put a space before each place at
which a word starts by a rule that looks at the characters around it (`startsWord`, `spacedAt`), and
before no other (`separateCapitals_separateWords`). What follows from this for the name in small
letters is `camelCaseToSpaces_startsWord`.
-/

namespace FieldMap.Text

/-! ## The rule -/

/-- Whether a word starts at a place of a text: at a capital, not at the front, which a small letter
follows or a small letter or digit precedes. -/
def startsWord (text : List Char) (i : Nat) : Bool :=
  0 < i && text[i]?.any Char.isUpper &&
    (text[i + 1]?.any Char.isLower || text[i - 1]?.any fun c => c.isLower || c.isDigit)

/-- A space if a condition holds. -/
def spaceIf (condition : Bool) : List Char :=
  if condition then [' '] else []

/-- The text with a space before each of certain places. -/
def spacedAt (places : Nat → Bool) (text : List Char) : List Char :=
  text.zipIdx.flatMap fun (c, i) => spaceIf (places i) ++ [c]

variable {places : Nat → Bool} {text rest : List Char} {c : Char}

theorem spacedAt_cons (places : Nat → Bool) (c : Char) (rest : List Char) :
    spacedAt places (c :: rest) =
      spaceIf (places 0) ++ c :: spacedAt (fun i => places (i + 1)) rest := by
  rw [spacedAt, List.zipIdx_cons, List.zipIdx_succ, List.flatMap_cons, List.flatMap_map,
    List.append_assoc]
  rfl

theorem startsWord_zero (text : List Char) : startsWord text 0 = false := by
  simp [startsWord]

theorem startsWord_one (c d : Char) (rest : List Char) : startsWord (c :: d :: rest) 1 =
    (d.isUpper && (rest.head?.any Char.isLower || (c.isLower || c.isDigit))) := by
  simp [startsWord, List.head?_eq_getElem?]

theorem startsWord_succ (c : Char) (rest : List Char) (i : Nat) :
    startsWord (c :: rest) (i + 2) = startsWord rest (i + 1) := by
  simp [startsWord]

/-- Past its first character a text is spaced as its rest is, but for a space between the two. -/
theorem spacedAt_startsWord_cons (c : Char) (rest : List Char) :
    spacedAt (startsWord (c :: rest)) (c :: rest) =
      c :: (spaceIf (startsWord (c :: rest) 1) ++ spacedAt (startsWord rest) rest) := by
  rw [spacedAt_cons, startsWord_zero]
  cases rest with
  | nil => rfl
  | cons d rest =>
    rw [spacedAt_cons, spacedAt_cons, startsWord_zero]
    simp only [startsWord_succ]
    rfl

/-! ## The two passes -/

theorem isUpper_eq_false_of_isLower (h : c.isLower = true) : c.isUpper = false := by
  have halpha : c.isAlphanum = true :=
    Bool.or_eq_true_iff.mpr (.inl (Bool.or_eq_true_iff.mpr (.inr h)))
  exact forall_ascii (P := fun c => c.isLower = true → c.isUpper = false) (by decide +kernel)
    (toNat_lt_of_isAlphanum halpha) h

theorem isLower_or_isDigit_eq_false_of_isUpper (h : c.isUpper = true) :
    (c.isLower || c.isDigit) = false := by
  have halpha : c.isAlphanum = true :=
    Bool.or_eq_true_iff.mpr (.inl (Bool.or_eq_true_iff.mpr (.inl h)))
  exact forall_ascii (P := fun c => c.isUpper = true → (c.isLower || c.isDigit) = false)
    (by decide +kernel) (toNat_lt_of_isAlphanum halpha) h

theorem separateCapitals_cons (c : Char) (rest : List Char) : separateCapitals (c :: rest) =
    c :: (spaceIf ((c.isLower || c.isDigit) && rest.head?.any Char.isUpper) ++
      separateCapitals rest) := by
  rw [separateCapitals]
  split
  · rename_i h
    rw [h]
    rfl
  · rename_i h
    rw [Bool.not_eq_true] at h
    rw [h]
    rfl

/-- A space that is there already is passed over. -/
theorem separateCapitals_space (c : Char) (rest : List Char) :
    separateCapitals (c :: ' ' :: rest) = c :: ' ' :: separateCapitals rest := by
  have hnone : ((' ' :: rest).head?.any Char.isUpper) = false := rfl
  rw [separateCapitals_cons, hnone, Bool.and_false, separateCapitals_cons]
  rfl

theorem separateCapitals_of_isUpper (h : c.isUpper = true) (rest : List Char) :
    separateCapitals (c :: rest) = c :: separateCapitals rest := by
  rw [separateCapitals_cons, isLower_or_isDigit_eq_false_of_isUpper h]
  rfl

theorem head?_separateWords (text : List Char) : (separateWords text).head? = text.head? := by
  fun_cases separateWords text <;> rfl

/-- What sets small letters apart from a capital after them sets a word of small letters apart
likewise. -/
theorem append_of_isLower {F : List Char → List Char}
    (hF : ∀ c rest, c.isLower = true →
      F (c :: rest) = c :: (spaceIf (rest.head?.any Char.isUpper) ++ F rest))
    {word : List Char} (hne : word ≠ []) (hw : ∀ c ∈ word, c.isLower = true) (rest : List Char) :
    F (word ++ rest) = word ++ (spaceIf (rest.head?.any Char.isUpper) ++ F rest) := by
  induction word with
  | nil => exact absurd rfl hne
  | cons c word ih =>
    rw [List.cons_append, hF c _ (hw c List.mem_cons_self)]
    cases word with
    | nil => rfl
    | cons d word =>
      have hd : d.isLower = true := hw d (List.mem_cons_of_mem _ List.mem_cons_self)
      rw [ih (List.cons_ne_nil _ _) fun x hx => hw x (List.mem_cons_of_mem _ hx)]
      have hnone : ((d :: word ++ rest).head?.any Char.isUpper) = false :=
        isUpper_eq_false_of_isLower hd
      rw [hnone]
      rfl

theorem separateCapitals_of_isLower (c : Char) (rest : List Char) (h : c.isLower = true) :
    separateCapitals (c :: rest) =
      c :: (spaceIf (rest.head?.any Char.isUpper) ++ separateCapitals rest) := by
  rw [separateCapitals_cons, h]
  rfl

theorem spacedAt_startsWord_of_isLower (c : Char) (rest : List Char) (h : c.isLower = true) :
    spacedAt (startsWord (c :: rest)) (c :: rest) =
      c :: (spaceIf (rest.head?.any Char.isUpper) ++ spacedAt (startsWord rest) rest) := by
  rw [spacedAt_startsWord_cons]
  cases rest with
  | nil => rfl
  | cons d rest =>
    rw [startsWord_one, h, Bool.true_or, Bool.or_true, Bool.and_true]
    rfl

/-- A capital is not set apart from a small letter after it. -/
theorem spacedAt_startsWord_of_head? (c : Char) (h : rest.head?.any Char.isLower = true) :
    spacedAt (startsWord (c :: rest)) (c :: rest) = c :: spacedAt (startsWord rest) rest := by
  rw [spacedAt_startsWord_cons]
  cases rest with
  | nil => cases h
  | cons d rest =>
    rw [startsWord_one, isUpper_eq_false_of_isLower h, Bool.false_and]
    rfl

theorem takeWhile_ne_nil_of_head? {p : Char → Bool} (h : text.head?.any p = true) :
    text.takeWhile p ≠ [] := by
  cases text with
  | nil => cases h
  | cons c rest =>
    rw [List.takeWhile_cons_of_pos (show p c = true from h)]
    exact List.cons_ne_nil _ _

/-- The first pass passes over some of the words, but only where a small letter precedes, and there
the second pass finds them. -/
theorem separateCapitals_separateWords (h : '\n' ∉ text) :
    separateCapitals (separateWords text) = spacedAt (startsWord text) text := by
  fun_induction separateWords text with
  | case1 c capital rest hword ih =>
    simp only [Bool.and_eq_true] at hword
    obtain ⟨⟨-, hcapital⟩, hnext⟩ := hword
    have hstart : startsWord (c :: capital :: rest) 1 = true := by
      rw [startsWord_one, hcapital, hnext]
      rfl
    -- The small letters after the capital, and what is left.
    obtain ⟨word, left, hw, hl⟩ : ∃ word left, rest.takeWhile Char.isLower = word ∧
        rest.dropWhile Char.isLower = left := ⟨_, _, rfl, rfl⟩
    have hrest : rest = word ++ left := by rw [← hw, ← hl, List.takeWhile_append_dropWhile]
    have hne : word ≠ [] := hw ▸ takeWhile_ne_nil_of_head? hnext
    have hsmall : ∀ x ∈ word, x.isLower = true := fun x hx => List.mem_takeWhile_imp (hw ▸ hx)
    have hleft : separateCapitals (word ++ separateWords left) =
        word ++ (spaceIf (left.head?.any Char.isUpper) ++ spacedAt (startsWord left) left) := by
      rw [hl] at ih
      rw [append_of_isLower separateCapitals_of_isLower hne hsmall, head?_separateWords, ih]
      exact fun hx => h (List.mem_cons_of_mem _ (List.mem_cons_of_mem _
        (hrest ▸ List.mem_append_right _ hx)))
    have hright : spacedAt (startsWord rest) rest =
        word ++ (spaceIf (left.head?.any Char.isUpper) ++ spacedAt (startsWord left) left) := by
      rw [hrest]
      exact append_of_isLower (F := fun text => spacedAt (startsWord text) text)
        spacedAt_startsWord_of_isLower hne hsmall left
    rw [hw, hl, separateCapitals_space, separateCapitals_of_isUpper hcapital, hleft,
      spacedAt_startsWord_cons, hstart, spacedAt_startsWord_of_head? capital hnext, hright]
    rfl
  | case2 c capital rest hword ih =>
    have hc : c ≠ '\n' := fun he => h (he ▸ List.mem_cons_self)
    have hgap : startsWord (c :: capital :: rest) 1 =
        ((c.isLower || c.isDigit) && capital.isUpper) := by
      rw [startsWord_one]
      cases hcapital : capital.isUpper with
      | false => rw [Bool.false_and, Bool.and_false]
      | true =>
        have hnext : rest.head?.any Char.isLower = false := by
          simpa [hc, hcapital] using hword
        rw [hnext, Bool.false_or, Bool.true_and, Bool.and_true]
    rw [separateCapitals_cons, head?_separateWords, ih fun hx => h (List.mem_cons_of_mem _ hx),
      spacedAt_startsWord_cons c, hgap]
    rfl
  | case3 short hshort =>
    match short with
    | [] => rfl
    | [c] =>
      have hnone : ([] : List Char).head?.any Char.isUpper = false := rfl
      rw [separateCapitals_cons, hnone, Bool.and_false]
      rfl
    | c :: d :: rest => exact absurd rfl (hshort c d rest)

/-! ## Texts with spaces put in -/

theorem spacedAt_map {f : Char → Char} (hf : f ' ' = ' ') (places : Nat → Bool)
    (text : List Char) : (spacedAt places text).map f = spacedAt places (text.map f) := by
  induction text generalizing places with
  | nil => rfl
  | cons c rest ih =>
    have hspace : (spaceIf (places 0)).map f = spaceIf (places 0) := by
      cases places 0 with
      | false => rfl
      | true => exact congrArg (fun c => [c]) hf
    rw [spacedAt_cons, List.map_append, List.map_cons, ih, hspace, List.map_cons, spacedAt_cons]

theorem filter_spacedAt (h : ' ' ∉ text) (places : Nat → Bool) :
    (spacedAt places text).filter (· ≠ ' ') = text := by
  induction text generalizing places with
  | nil => rfl
  | cons c rest ih =>
    have hspace : (spaceIf (places 0)).filter (· ≠ ' ') = [] := by
      cases places 0 <;> rfl
    rw [List.mem_cons, not_or] at h
    have hc : decide (c ≠ ' ') = true := decide_eq_true (Ne.symm h.1)
    rw [spacedAt_cons, List.filter_append, hspace, List.nil_append, List.filter_cons, if_pos hc,
      ih h.2]

theorem mem_spacedAt (h : c ∈ spacedAt places text) : c = ' ' ∨ c ∈ text := by
  induction text generalizing places with
  | nil => cases h
  | cons d rest ih =>
    rw [spacedAt_cons, List.mem_append, List.mem_cons] at h
    rcases h with h | rfl | h
    · cases hp : places 0 with
      | false => rw [hp] at h; cases h
      | true =>
        rw [hp] at h
        exact .inl (List.mem_singleton.mp h)
    · exact .inr List.mem_cons_self
    · exact (ih h).imp_right (List.mem_cons_of_mem d)

theorem spacedAt_eq_self (h : ∀ i, places i = false) : spacedAt places text = text := by
  induction text generalizing places with
  | nil => rfl
  | cons c rest ih =>
    rw [spacedAt_cons, h 0, ih fun i => h (i + 1)]
    rfl

theorem head?_spacedAt (h : places 0 = false) : (spacedAt places text).head? = text.head? := by
  cases text with
  | nil => rfl
  | cons c rest =>
    rw [spacedAt_cons, h]
    rfl

theorem getLast?_spacedAt (places : Nat → Bool) (text : List Char) :
    (spacedAt places text).getLast? = text.getLast? := by
  induction text generalizing places with
  | nil => rfl
  | cons c rest ih =>
    rw [spacedAt_cons, List.getLast?_append, List.getLast?_cons, List.getLast?_cons, ih]
    rfl

/-- No two spaces stand side by side if there is none in the text. -/
theorem not_infix_spacedAt (h : ' ' ∉ text) (places : Nat → Bool) :
    ¬[' ', ' '] <:+: spacedAt places text := by
  induction text generalizing places with
  | nil => simp [spacedAt]
  | cons c rest ih =>
    rw [List.mem_cons, not_or] at h
    have hc : ¬[' ', ' '] <:+: c :: spacedAt (fun i => places (i + 1)) rest := by
      rw [List.infix_cons_iff, not_or]
      exact ⟨fun hp => h.1 (List.cons_prefix_cons.mp hp).1, ih h.2 _⟩
    rw [spacedAt_cons]
    cases places 0 with
    | false => exact hc
    | true =>
      show ¬[' ', ' '] <:+: ' ' :: c :: _
      rw [List.infix_cons_iff, not_or]
      refine ⟨fun hp => h.1 ?_, hc⟩
      exact (List.cons_prefix_cons.mp (List.cons_prefix_cons.mp hp).2).1

/-! ## Lines and names -/

/-- A line of ASCII characters with no blanks at its ends. -/
structure IsTrimmedLine (text : List Char) : Prop where
  ascii : ∀ c ∈ text, c.toNat < 128
  noLineFeed : '\n' ∉ text
  head : text.head?.any isBlank = false
  last : text.getLast?.any isBlank = false

theorem trim_eq_self (hh : text.head?.any isBlank = false)
    (hl : text.getLast?.any isBlank = false) : trim text = text := by
  have hdrop : text.dropWhile isBlank = text := by
    cases text with
    | nil => rfl
    | cons c rest => exact List.dropWhile_cons_of_neg (Bool.eq_false_iff.mp hh)
  show (text.dropWhile isBlank).rdropWhile isBlank = text
  rw [hdrop, List.rdropWhile_eq_self_iff]
  intro hne hb
  rw [List.getLast?_eq_some_getLast hne, Option.any_some, hb] at hl
  cases hl

/-- A space before each place of a line but the front leaves a line. -/
theorem IsTrimmedLine.spacedAt (h : IsTrimmedLine text) (hp : places 0 = false) :
    IsTrimmedLine (spacedAt places text) where
  ascii := by
    intro c hc
    rcases mem_spacedAt hc with rfl | hc
    · decide
    · exact h.ascii c hc
  noLineFeed := fun hc => (mem_spacedAt hc).elim (fun he => absurd he (by decide)) h.noLineFeed
  head := by rw [head?_spacedAt hp, h.head]
  last := by rw [getLast?_spacedAt, h.last]

theorem toList_lowercase {s : String} (h : ∀ c ∈ s.toList, c.toNat < 128) :
    (lowercase s).toList = s.toList.map Char.toLower := by
  rw [lowercase, String.toList_ofList, lowercaseAfter_ascii h]

/-- A line is set in small letters, with a space before each word. -/
theorem toList_camelCaseToSpaces {s : String} (h : IsTrimmedLine s.toList) :
    (camelCaseToSpaces s).toList =
      spacedAt (startsWord s.toList) (s.toList.map Char.toLower) := by
  have hline : IsTrimmedLine (spacedAt (startsWord s.toList) s.toList) :=
    h.spacedAt (startsWord_zero _)
  rw [camelCaseToSpaces, separateCapitals_separateWords h.noLineFeed,
    trim_eq_self hline.head hline.last, toList_lowercase, String.toList_ofList, spacedAt_map rfl]
  rw [String.toList_ofList]
  exact hline.ascii

/-- Without capitals no word starts. -/
theorem startsWord_eq_false (h : ∀ c ∈ text, c.isUpper = false) (i : Nat) :
    startsWord text i = false := by
  have hnone : text[i]?.any Char.isUpper = false := by
    cases hc : text[i]? with
    | none => rfl
    | some c => exact h c (List.mem_of_getElem? hc)
  rw [startsWord, hnone, Bool.and_false, Bool.false_and]

/-- A line without capitals stays as it is. -/
theorem camelCaseToSpaces_eq_self {s : String} (h : IsTrimmedLine s.toList)
    (hc : ∀ c ∈ s.toList, c.isUpper = false) : camelCaseToSpaces s = s := by
  have hlower : s.toList.map Char.toLower = s.toList :=
    (List.map_congr_left fun c hm => dif_neg (of_decide_eq_false (hc c hm))).trans (List.map_id _)
  rw [← String.toList_inj, toList_camelCaseToSpaces h, hlower,
    spacedAt_eq_self (startsWord_eq_false hc)]

/-- The characters of names. -/
def IsNameChar (c : Char) : Prop :=
  c.isAlphanum = true ∨ c = '_'

instance (c : Char) : Decidable (IsNameChar c) :=
  inferInstanceAs (Decidable (_ ∨ _))

theorem IsNameChar.toNat_lt (h : IsNameChar c) : c.toNat < 128 := by
  rcases h with h | rfl
  · exact toNat_lt_of_isAlphanum h
  · decide

theorem IsNameChar.toLower (h : IsNameChar c) :
    isBlank c = false ∧ IsNameChar c.toLower ∧ c.toLower.isUpper = false :=
  forall_ascii (P := fun c => IsNameChar c →
    isBlank c = false ∧ IsNameChar c.toLower ∧ c.toLower.isUpper = false)
    (by decide +kernel) h.toNat_lt h

theorem isTrimmedLine_of_isNameChar (h : ∀ c ∈ text, IsNameChar c) : IsTrimmedLine text where
  ascii := fun c hc => (h c hc).toNat_lt
  noLineFeed := fun hc => absurd (h _ hc).toLower.1 (by decide)
  head := by
    cases hc : text.head? with
    | none => rfl
    | some c => exact (h c (List.mem_of_head? hc)).toLower.1
  last := by
    cases hc : text.getLast? with
    | none => rfl
    | some c => exact (h c (List.mem_of_getLast? hc)).toLower.1

/-- A name in camel case is set in small letters with one space before each word, which starts at a
capital that a small letter follows or a small letter or digit precedes. Without the spaces it is
the name in small letters; spaces stand neither side by side nor at an end; and the words are
separated once and for all. -/
theorem camelCaseToSpaces_startsWord {s : String} (h : ∀ c ∈ s.toList, IsNameChar c) :
    (camelCaseToSpaces s).toList = spacedAt (startsWord s.toList) (lowercase s).toList ∧
    (camelCaseToSpaces s).toList.filter (· ≠ ' ') = (lowercase s).toList ∧
    ¬[' ', ' '] <:+: (camelCaseToSpaces s).toList ∧
    (camelCaseToSpaces s).toList.head? ≠ some ' ' ∧
    (camelCaseToSpaces s).toList.getLast? ≠ some ' ' ∧
    camelCaseToSpaces (camelCaseToSpaces s) = camelCaseToSpaces s := by
  have hline : IsTrimmedLine s.toList := isTrimmedLine_of_isNameChar h
  have hsmall : ∀ c ∈ s.toList.map Char.toLower, IsNameChar c ∧ c.isUpper = false := by
    intro c hc
    obtain ⟨d, hd, rfl⟩ := List.mem_map.mp hc
    exact (h d hd).toLower.2
  have hspace : ' ' ∉ s.toList.map Char.toLower := fun hc => absurd (hsmall _ hc).1 (by decide)
  have hwords := toList_camelCaseToSpaces hline
  have hresult : IsTrimmedLine (camelCaseToSpaces s).toList := by
    rw [hwords]
    exact (isTrimmedLine_of_isNameChar fun c hc => (hsmall c hc).1).spacedAt (startsWord_zero _)
  have hcapital : ∀ c ∈ (camelCaseToSpaces s).toList, c.isUpper = false := by
    intro c hc
    rw [hwords] at hc
    rcases mem_spacedAt hc with rfl | hc
    · decide
    · exact (hsmall c hc).2
  refine ⟨?_, ?_, ?_, fun hh => ?_, fun hl => ?_, camelCaseToSpaces_eq_self hresult hcapital⟩
  · rw [hwords, toList_lowercase hline.ascii]
  · rw [hwords, filter_spacedAt hspace, toList_lowercase hline.ascii]
  · rw [hwords]
    exact not_infix_spacedAt hspace _
  · have := hresult.head
    rw [hh] at this
    cases this
  · have := hresult.last
    rw [hl] at this
    cases this

/-- A name with words that only the second pass finds, an abbreviation and a digit. -/
theorem camelCaseToSpaces_startsWord_log :
    (∀ c ∈ "HTTPRequestLog2Entry_v".toList, IsNameChar c) ∧
      camelCaseToSpaces "HTTPRequestLog2Entry_v" = "http request log2 entry_v" := by
  have h : ∀ c ∈ "HTTPRequestLog2Entry_v".toList, IsNameChar c := by
    simp [IsNameChar]
  refine ⟨h, ?_⟩
  rw [← String.toList_inj, (camelCaseToSpaces_startsWord h).1]
  decide

end FieldMap.Text
