import FieldMap.Proofs.Equality
import FieldMap.Validator.Unique

/-!
# Columns of unique values

A `UniqueValidator` accepts a value that is the same as none of the existing ones
(`UniqueValidator.check_eq_ok_iff`), and so a column that takes in only what it accepts holds no two
values that are the same. What a candidate does to the column is told by
`UniqueValidator.store_cases`; that the column stays unique (`UniqueValidator.IsColumn.store`) is an
invariant of every run of candidates (`UniqueValidator.IsColumn.foldl`). The check looks only from
the candidate at what is stored. That the other direction holds too is the symmetry of sameness
(`UniqueValidator.isSame_comm`).
-/

namespace FieldMap.UniqueValidator

variable {u : UniqueValidator} {value other candidate : Value}
  {existing existing' stored candidates : List Value}

/-! ## Sameness -/

/-- Values are the same if they are equal, or without regard to letter case if they are texts with
one lower case. -/
theorem isSame_eq_true_iff : u.isSame value other = true ↔ value.same other = true ∨
    u.lookup = .ignoringCase ∧ ∃ a b, value = .string a ∧ other = .string b ∧
      Text.lowercase a = Text.lowercase b := by
  unfold isSame
  split
  · rename_i a b hl
    rw [beq_iff_eq]
    constructor
    · exact fun h => .inr ⟨hl, a, b, rfl, rfl, h⟩
    · rintro (h | ⟨-, _, _, ha, hb, h⟩)
      · rw [Value.same, beq_iff_eq] at h
        rw [h]
      · cases ha
        cases hb
        exact h
  · rename_i hne
    refine (or_iff_left ?_).symm
    rintro ⟨hl, a, b, ha, hb, -⟩
    exact hne a b hl ha hb

/-- Compared exactly, values are the same if they are equal. -/
theorem isSame_exact :
    { u with lookup := .exact }.isSame value other = true ↔ value.same other = true :=
  isSame_eq_true_iff.trans (or_iff_left fun h => nomatch h.1)

/-- Compared without regard to letter case, texts are the same already if they have one lower
case. -/
theorem isSame_ignoringCase :
    { u with lookup := .ignoringCase }.isSame value other = true ↔ value.same other = true ∨
      ∃ a b, value = .string a ∧ other = .string b ∧ Text.lowercase a = Text.lowercase b :=
  isSame_eq_true_iff.trans (or_congr_right (and_iff_right rfl))

theorem isSame_comm (hv : value.DistinctKeys) (ho : other.DistinctKeys) :
    u.isSame value other = u.isSame other value := by
  have htexts (value other : Value) : (∃ a b, value = .string a ∧ other = .string b ∧
      Text.lowercase a = Text.lowercase b) → ∃ a b, other = .string a ∧ value = .string b ∧
        Text.lowercase a = Text.lowercase b := fun ⟨a, b, ha, hb, h⟩ => ⟨b, a, hb, ha, h.symm⟩
  rw [Bool.eq_iff_iff, isSame_eq_true_iff, isSame_eq_true_iff, Value.same_comm hv ho]
  exact or_congr_right (and_congr_right' ⟨htexts value other, htexts other value⟩)

/-- Values that are the same exactly are so without regard to letter case. -/
theorem isSame_ignoringCase_of_exact (h : { u with lookup := .exact }.isSame value other = true) :
    { u with lookup := .ignoringCase }.isSame value other = true :=
  isSame_ignoringCase.mpr (.inl (isSame_exact.mp h))

/-- Without regard to letter case a text is the same only as texts that have its lower case. -/
theorem isSame_ignoringCase_string {text : String} :
    { u with lookup := .ignoringCase }.isSame (.string text) other = true ↔
      ∃ taken, other = .string taken ∧ Text.lowercase text = Text.lowercase taken := by
  cases other with
  | string taken =>
    show (Text.lowercase text == Text.lowercase taken) = true ↔ _
    rw [beq_iff_eq]
    simp only [Value.string.injEq, exists_eq_left']
  | _ => exact iff_of_false nofun nofun

/-! ## The check -/

theorem check_eq_ok_iff :
    u.check value existing = .ok () ↔ ∀ other ∈ existing, u.isSame value other = false := by
  rw [check, Validator.demand]
  split <;> rename_i h <;> simpa using h

theorem check_eq_error_iff {e : ValidationError} : u.check value existing = .error e ↔
    (∃ other ∈ existing, u.isSame value other = true) ∧ e = .ofMessage u.message "unique" := by
  rw [check, Validator.demand, ← List.any_eq_true]
  cases existing.any (u.isSame value) <;> simp [eq_comm]

/-- The verdict depends only on which values there are. -/
theorem check_congr (h : ∀ other, other ∈ existing ↔ other ∈ existing') :
    u.check value existing = u.check value existing' := by
  have hany : existing.any (u.isSame value) = existing'.any (u.isSame value) := by
    rw [Bool.eq_iff_iff, List.any_eq_true, List.any_eq_true]
    exact exists_congr fun other => and_congr_left' (h other)
  rw [check, check, hany]

/-! ## Columns -/

/-- The column after a candidate has been offered: it is stored exactly if the check accepts it. -/
def store (u : UniqueValidator) (stored : List Value) (candidate : Value) : List Value :=
  match u.check candidate stored with
  | .ok () => stored ++ [candidate]
  | .error _ => stored

/-- The column that takes in candidates one by one. -/
def column (u : UniqueValidator) (candidates : List Value) : List Value :=
  candidates.foldl u.store []

/-- What offering a candidate comes to. -/
theorem store_cases (u : UniqueValidator) (stored : List Value) (candidate : Value) :
    ((∀ other ∈ stored, u.isSame candidate other = false) ∧
      u.store stored candidate = stored ++ [candidate]) ∨
    ((∃ other ∈ stored, u.isSame candidate other = true) ∧ u.store stored candidate = stored) := by
  cases h : u.check candidate stored with
  | ok _ => exact .inl ⟨check_eq_ok_iff.mp h, by rw [store, h]⟩
  | error e => exact .inr ⟨(check_eq_error_iff.mp h).1, by rw [store, h]⟩

/-- A column of values in which no key stands twice and of which no two are the same, in either
direction. -/
structure IsColumn (u : UniqueValidator) (stored : List Value) : Prop where
  distinctKeys : ∀ value ∈ stored, value.DistinctKeys
  unique : stored.Pairwise fun a b => u.isSame a b = false ∧ u.isSame b a = false

theorem isColumn_nil : IsColumn u [] :=
  ⟨nofun, .nil⟩

theorem IsColumn.store (h : IsColumn u stored) (hc : candidate.DistinctKeys) :
    IsColumn u (u.store stored candidate) := by
  obtain ⟨hnew, hs⟩ | ⟨-, hs⟩ := u.store_cases stored candidate
  · rw [hs]
    constructor
    · exact List.forall_mem_append.mpr ⟨h.distinctKeys, List.forall_mem_singleton.mpr hc⟩
    · refine List.pairwise_append.mpr ⟨h.unique, List.pairwise_singleton _ _, fun a ha b hb => ?_⟩
      obtain rfl := List.mem_singleton.mp hb
      exact ⟨isSame_comm hc (h.distinctKeys a ha) ▸ hnew a ha, hnew a ha⟩
  · rw [hs]
    exact h

theorem IsColumn.foldl (h : IsColumn u stored) (hc : ∀ value ∈ candidates, value.DistinctKeys) :
    IsColumn u (candidates.foldl u.store stored) := by
  induction candidates generalizing stored with
  | nil => exact h
  | cons candidate rest ih =>
    obtain ⟨hcandidate, hrest⟩ := List.forall_mem_cons.mp hc
    exact ih (h.store hcandidate) hrest

/-- Values at different places of a column are not the same. -/
theorem IsColumn.isSame_eq_false (h : IsColumn u stored) {i j : Nat} {a b : Value} (hij : i ≠ j)
    (ha : stored[i]? = some a) (hb : stored[j]? = some b) : u.isSame a b = false := by
  obtain ⟨hi, rfl⟩ := List.getElem?_eq_some_iff.mp ha
  obtain ⟨hj, rfl⟩ := List.getElem?_eq_some_iff.mp hb
  have hpairs := List.pairwise_iff_getElem.mp h.unique
  obtain hlt | hlt := Nat.lt_or_gt_of_ne hij
  · exact (hpairs i j hi hj hlt).1
  · exact (hpairs j i hj hi hlt).2

/-- A column that takes in what a uniqueness check accepts stays unique: no two values at different
places are the same, in either direction. They are the same exactly if they are equal, and without
regard to letter case also if they are texts with one lower case. The check depends only on which
values there are, more of them only lead to more failures, and so does comparing without regard to
letter case, where a text is refused exactly for texts that have its lower case. A failure has the
validator's message. -/
theorem column_unique (u : UniqueValidator) {candidates : List Value}
    (hc : ∀ value ∈ candidates, value.DistinctKeys) :
    (∀ (i j : Nat) a b, i ≠ j → (u.column candidates)[i]? = some a →
      (u.column candidates)[j]? = some b → u.isSame a b = false) ∧
    (∀ value other,
      { u with lookup := .exact }.isSame value other = true ↔ value.same other = true) ∧
    (∀ value other,
      { u with lookup := .ignoringCase }.isSame value other = true ↔ value.same other = true ∨
        ∃ a b, value = .string a ∧ other = .string b ∧ Text.lowercase a = Text.lowercase b) ∧
    (∀ value existing existing', (∀ other, other ∈ existing ↔ other ∈ existing') →
      u.check value existing = u.check value existing') ∧
    (∀ value existing existing', existing ⊆ existing' →
      u.check value existing' = .ok () → u.check value existing = .ok ()) ∧
    (∀ value existing e, { u with lookup := .exact }.check value existing = .error e →
      { u with lookup := .ignoringCase }.check value existing = .error e) ∧
    (∀ text existing,
      (∃ e, { u with lookup := .ignoringCase }.check (.string text) existing = .error e) ↔
        ∃ taken, .string taken ∈ existing ∧ Text.lowercase text = Text.lowercase taken) ∧
    ∀ value existing e, u.check value existing = .error e →
      e = .ofMessage u.message "unique" := by
  have hcolumn : IsColumn u (u.column candidates) := isColumn_nil.foldl hc
  refine ⟨fun i j a b hij ha hb => hcolumn.isSame_eq_false hij ha hb,
    fun _ _ => isSame_exact, fun _ _ => isSame_ignoringCase, fun _ _ _ h => check_congr h,
    fun _ _ _ hs h => ?_, fun _ _ e h => ?_, fun text existing => ?_,
    fun _ _ _ h => (check_eq_error_iff.mp h).2⟩
  · exact check_eq_ok_iff.mpr fun other ho => check_eq_ok_iff.mp h other (hs ho)
  · obtain ⟨⟨other, ho, hsame⟩, he⟩ := check_eq_error_iff.mp h
    exact check_eq_error_iff.mpr ⟨⟨other, ho, isSame_ignoringCase_of_exact hsame⟩, he⟩
  · simp only [check_eq_error_iff, isSame_ignoringCase_string, exists_and_left, exists_eq,
      and_true]
    constructor
    · rintro ⟨_, ho, taken, rfl, h⟩
      exact ⟨taken, ho, h⟩
    · rintro ⟨taken, ho, h⟩
      exact ⟨_, ho, taken, rfl, h⟩

/-- A text in other letters and an object in another order are refused, and what is no number is
stored twice. -/
theorem column_unique_reordered :
    ∃ (u : UniqueValidator) (first second : Json), u.lookup = .ignoringCase ∧
      first = .object [("a", .int 1), ("b", .null)] ∧
      second = .object [("b", .null), ("a", .int 1)] ∧
      u.column [.string "Ada", .string "ADA", .json first, .json second, .float .nan, .float .nan] =
        [.string "Ada", .json first, .float .nan, .float .nan] ∧
      u.isSame (.float .nan) (.float .nan) = false := by
  let u : UniqueValidator := { queryset := ⟨⟨"auth", "User"⟩, "objects"⟩, lookup := .ignoringCase }
  let first : Json := .object [("a", .int 1), ("b", .null)]
  let second : Json := .object [("b", .null), ("a", .int 1)]
  have hc : ∀ value ∈ [Value.string "Ada", .string "ADA", .json first, .json second, .float .nan,
      .float .nan], value.DistinctKeys := by
    simp [first, second, Value.DistinctKeys, Json.DistinctKeys, Json.DistinctKeysInMembers]
  obtain ⟨hsame, -⟩ := column_unique u hc
  exact ⟨u, first, second, rfl, rfl, rfl, rfl, hsame 2 3 _ _ (by decide) rfl rfl⟩

end FieldMap.UniqueValidator
