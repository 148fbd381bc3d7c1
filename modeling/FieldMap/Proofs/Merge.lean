import FieldMap.Json.Merge
import FieldMap.Proofs.Members

/-!
# Laying documents over each other, path by path

What one level of `Json.merge` does is said by the members under each key (`member?_mergeMembers`):
each override is laid over what the members so far have under its key, and no other member changes
(`exists_mergeMembers_cons`). Walking a path in both documents together (`WalksTo`) then says what
is found at the path (`LaidOver`, `laidOver_merge`): what the overlay has, where it has or lacks the
path by itself, and what the base has where an object of the overlay lacks the path's next key
(`at?_merge_cases`). Laying a document over another twice is the same as once, but for the order of
members (`reordered_merge_merge`).
-/

namespace FieldMap.Json

variable {base overlay document : Json} {members overrides : Members} {key : String}

/-! ## One level -/

/-- What a key leads to, given what it leads to in both. -/
def mergeValue? : Option Json → Option Json → Option Json
  | some old, some new => some (merge old new)
  | none, some new => some new
  | old, none => old

/-- What comes from a merged key: the base's value, the overlay's, or one laid over the other. -/
theorem of_mergeValue?_eq_some {old new : Option Json} {value : Json}
    (h : mergeValue? old new = some value) : old = some value ∨ new = some value ∨
      ∃ b o, old = some b ∧ new = some o ∧ value = merge b o := by
  cases old <;> cases new <;> cases h
  · exact .inr (.inl rfl)
  · exact .inl rfl
  · exact .inr (.inr ⟨_, _, rfl, rfl, rfl⟩)

/-- Objects are merged, and everywhere else the overlay replaces the base. -/
theorem merge_cases (base overlay : Json) :
    (∃ members overrides, base = .object members ∧ overlay = .object overrides ∧
      merge base overlay = .object (mergeMembers members overrides)) ∨
    ((base.isObject && overlay.isObject) = false ∧ merge base overlay = overlay) := by
  cases base with
  | object members =>
    cases overlay with
    | object overrides => exact .inl ⟨members, overrides, rfl, rfl, by rw [merge]⟩
    | _ => exact .inr ⟨rfl, by simp only [merge]⟩
  | _ => exact .inr ⟨rfl, by simp only [merge]⟩

theorem merge_of_not_isObject (h : base.isObject = false ∨ overlay.isObject = false) :
    merge base overlay = overlay := by
  obtain ⟨members, overrides, rfl, rfl, -⟩ | ⟨-, heq⟩ := merge_cases base overlay
  · rcases h with h | h <;> cases h
  · exact heq

/-- Overrides with new keys come after the members, as they are. -/
theorem mergeMembers_of_nodup (h : ((members ++ overrides).map Prod.fst).Nodup) :
    mergeMembers members overrides = members ++ overrides := by
  induction overrides generalizing members with
  | nil => rw [mergeMembers, List.append_nil]
  | cons override rest ih =>
    obtain ⟨key, value⟩ := override
    have happend : members ++ (key, value) :: rest = (members ++ [(key, value)]) ++ rest := by
      rw [List.append_assoc, List.singleton_append]
    have hkey : takeMember? key members = none := by
      cases ht : takeMember? key members with
      | none => rfl
      | some found =>
        have hmem := (perm_of_takeMember? ht).mem_iff.mpr List.mem_cons_self
        rw [List.map_append, List.nodup_append] at h
        exact absurd rfl (h.2.2 key (List.mem_map_of_mem hmem) key
          (List.mem_map_of_mem List.mem_cons_self))
    rw [mergeMembers, hkey, happend]
    exact ih (happend ▸ h)

/-- Laying one override over members changes its own key only. -/
theorem exists_mergeMembers_cons (h : (members.map Prod.fst).Nodup) (key : String) (value : Json)
    (rest : Members) : ∃ changed : Members,
      mergeMembers members ((key, value) :: rest) = mergeMembers changed rest ∧
      (changed.map Prod.fst).Nodup ∧ ∀ k, member? k changed =
        if k = key then mergeValue? (member? key members) (some value) else member? k members := by
  have appended {others : Members} (new : Json) (hn : (others.map Prod.fst).Nodup)
      (hk : key ∉ others.map Prod.fst) : ((others ++ [(key, new)]).map Prod.fst).Nodup ∧
        ∀ k, member? k (others ++ [(key, new)]) =
          if k = key then some new else member? k others := by
    have hp : ((key, new) :: others).Perm (others ++ [(key, new)]) :=
      (List.perm_append_singleton _ _).symm
    have hc : (((key, new) :: others).map Prod.fst).Nodup := List.nodup_cons.mpr ⟨hk, hn⟩
    refine ⟨(hp.map Prod.fst).nodup hc, fun k => ?_⟩
    rw [← member?_congr_of_perm hc hp, member?_cons]
  rw [mergeMembers]
  cases ht : takeMember? key members with
  | none =>
    have hk := not_mem_of_takeMember?_eq_none ht
    obtain ⟨hn, hm⟩ := appended value h hk
    refine ⟨_, rfl, hn, fun k => ?_⟩
    rw [hm, member?_eq_none_iff.mpr hk]
    rfl
  | some found =>
    obtain ⟨old, others⟩ := found
    have hp := perm_of_takeMember? ht
    have hc := List.nodup_cons.mp ((hp.map Prod.fst).nodup h)
    have hold (k : String) :
        member? k members = if k = key then some old else member? k others := by
      rw [member?_congr_of_perm h hp, member?_cons]
    obtain ⟨hn, hm⟩ := appended (merge old value) hc.2 hc.1
    refine ⟨_, rfl, hn, fun k => ?_⟩
    rw [hm, hold key, if_pos rfl, hold k]
    split <;> rfl

/-- Each key leads to what it leads to in both, one laid over the other. -/
theorem member?_mergeMembers (hm : (members.map Prod.fst).Nodup)
    (ho : (overrides.map Prod.fst).Nodup) (k : String) :
    member? k (mergeMembers members overrides) =
      mergeValue? (member? k members) (member? k overrides) := by
  induction overrides generalizing members with
  | nil =>
    rw [mergeMembers]
    cases member? k members <;> rfl
  | cons override rest ih =>
    obtain ⟨key, value⟩ := override
    obtain ⟨hkey, hrest⟩ := List.nodup_cons.mp ho
    obtain ⟨changed, heq, hn, hc⟩ := exists_mergeMembers_cons hm key value rest
    rw [heq, ih hn hrest, hc, member?_cons]
    by_cases e : k = key
    · -- The rest of the overrides does not speak of the key again.
      subst e
      rw [if_pos rfl, if_pos rfl, member?_eq_none_iff.mpr hkey]
      cases member? k members <;> rfl
    · rw [if_neg e, if_neg e]

theorem nodup_mergeMembers (hm : (members.map Prod.fst).Nodup) (overrides : Members) :
    ((mergeMembers members overrides).map Prod.fst).Nodup := by
  induction overrides generalizing members with
  | nil =>
    rw [mergeMembers]
    exact hm
  | cons override rest ih =>
    obtain ⟨changed, heq, hn, -⟩ := exists_mergeMembers_cons hm override.1 override.2 rest
    rw [heq]
    exact ih hn

/-- Laying documents over each other keeps keys distinct. -/
theorem DistinctKeys.merge (hb : base.DistinctKeys) (ho : overlay.DistinctKeys) :
    (merge base overlay).DistinctKeys := by
  induction overlay using inductionOnMembers generalizing base with
  | step overlay ih =>
    obtain ⟨members, overrides, rfl, rfl, h⟩ | ⟨-, h⟩ := merge_cases base overlay
    · rw [h]
      refine distinctKeys_object_iff.mpr ⟨nodup_mergeMembers hb.nodup _, fun key value hv => ?_⟩
      rw [← member?_eq_some_iff (nodup_mergeMembers hb.nodup _),
        member?_mergeMembers hb.nodup ho.nodup] at hv
      obtain hold | hnew | ⟨b, o, hold, hnew, rfl⟩ := of_mergeValue?_eq_some hv
      · exact hb.of_member? hold
      · exact ho.of_member? hnew
      · exact ih overrides key o rfl hnew (hb.of_member? hold) (ho.of_member? hnew)
    · rw [h]
      exact ho

theorem merge_object_nil (h : overlay.DistinctKeys) : merge (.object []) overlay = overlay := by
  cases overlay with
  | object overrides =>
    rw [merge, mergeMembers_of_nodup (by rw [List.nil_append]; exact h.nodup), List.nil_append]
  | _ => exact merge_of_not_isObject (.inr rfl)

/-! ## Twice the same overlay -/

/-- Objects are the same but for order if every key leads to the same in both, or to nothing. -/
theorem reordered_object {as bs : Members} (ha : (as.map Prod.fst).Nodup)
    (hb : (bs.map Prod.fst).Nodup)
    (h : ∀ k, member? k as = none ∧ member? k bs = none ∨
      ∃ a b, member? k as = some a ∧ member? k bs = some b ∧ Reordered a b) :
    Reordered (.object as) (.object bs) := by
  refine .object ((List.perm_ext_iff_of_nodup ha hb).mpr fun k => ?_) fun k a b hka hkb => ?_
  · rw [mem_keys_iff, mem_keys_iff]
    obtain ⟨hka, hkb⟩ | ⟨a, b, hka, hkb, -⟩ := h k
    · rw [hka, hkb]
    · rw [hka, hkb]
      exact iff_of_true ⟨a, rfl⟩ ⟨b, rfl⟩
  · obtain ⟨hna, -⟩ | ⟨a', b', hka', hkb', hab⟩ := h k
    · rw [hna] at hka
      cases hka
    · rw [hka] at hka'
      rw [hkb] at hkb'
      cases hka'
      cases hkb'
      exact hab

theorem reordered_merge_self (h : document.DistinctKeys) :
    Reordered (merge document document) document := by
  induction document using inductionOnMembers with
  | step document ih =>
    obtain ⟨members, _, rfl, h', heq⟩ | ⟨-, heq⟩ := merge_cases document document
    · cases h'
      rw [heq]
      refine reordered_object (nodup_mergeMembers h.nodup _) h.nodup fun k => ?_
      rw [member?_mergeMembers h.nodup h.nodup]
      cases hk : member? k members with
      | none => exact .inl ⟨rfl, rfl⟩
      | some value => exact .inr ⟨_, _, rfl, rfl, ih members k value rfl hk (h.of_member? hk)⟩
    · rw [heq]
      exact .refl document

/-- Laying the same document over another one again only changes the order of members. -/
theorem reordered_merge_merge (hb : base.DistinctKeys) (ho : overlay.DistinctKeys) :
    Reordered (merge (merge base overlay) overlay) (merge base overlay) := by
  induction overlay using inductionOnMembers generalizing base with
  | step overlay ih =>
    obtain ⟨members, overrides, rfl, rfl, heq⟩ | ⟨-, heq⟩ := merge_cases base overlay
    · have hn := nodup_mergeMembers hb.nodup overrides
      rw [heq, merge]
      refine reordered_object (nodup_mergeMembers hn _) hn fun k => ?_
      rw [member?_mergeMembers hn ho.nodup, member?_mergeMembers hb.nodup ho.nodup]
      cases hnew : member? k overrides with
      | none =>
        cases member? k members with
        | none => exact .inl ⟨rfl, rfl⟩
        | some old => exact .inr ⟨_, _, rfl, rfl, .refl old⟩
      | some new =>
        cases hold : member? k members with
        | none => exact .inr ⟨_, _, rfl, rfl, reordered_merge_self (ho.of_member? hnew)⟩
        | some old =>
          exact .inr ⟨_, _, rfl, rfl,
            ih overrides k new rfl hnew (hb.of_member? hold) (ho.of_member? hnew)⟩
    · rw [heq]
      exact reordered_merge_self ho

/-! ## Paths -/

/-- The value at a path of keys. -/
def at? : (path : List String) → Json → Option Json
  | [], document => some document
  | key :: path, .object members => (member? key members).bind (at? path)
  | _ :: _, _ => none

/-- Walking a path in two documents together, through objects that both have the next key, leads to
a value in each. -/
inductive WalksTo : Json → Json → List String → Json → Json → Prop
  | start (b o : Json) : WalksTo b o [] b o
  | step {members overrides : Members} {key : String} {path : List String} {old new b o : Json}
      (hb : member? key members = some old) (ho : member? key overrides = some new)
      (h : WalksTo old new path b o) :
      WalksTo (.object members) (.object overrides) (key :: path) b o

/-- Walking a path in a document leads to an object that lacks the path's next key. -/
inductive Lacks : List String → Json → Prop
  | here {members : Members} {key : String} (path : List String) (h : member? key members = none) :
      Lacks (key :: path) (.object members)
  | there {members : Members} {key : String} {path : List String} {value : Json}
      (hk : member? key members = some value) (h : Lacks path value) :
      Lacks (key :: path) (.object members)

/-- The value with nothing in it, if it is an object. -/
def outline : Json → Json
  | .object _ => .object []
  | value => value

theorem at?_object (path : List String) :
    at? (key :: path) (.object members) = (member? key members).bind (at? path) := by
  rw [at?]

theorem at?_of_not_isObject {path : List String} (h : document.isObject = false) :
    at? (key :: path) document = none := by
  cases document <;> first | rfl | cases h

/-- Below a path on which both can be walked, the merged document is what they lead to, merged. -/
theorem WalksTo.at?_merge {path : List String} {b o : Json} (h : WalksTo base overlay path b o)
    (hb : base.DistinctKeys) (ho : overlay.DistinctKeys) (rest : List String) :
    b.DistinctKeys ∧ o.DistinctKeys ∧ at? (path ++ rest) base = at? rest b ∧
      at? (path ++ rest) overlay = at? rest o ∧
      at? (path ++ rest) (merge base overlay) = at? rest (merge b o) := by
  induction h with
  | start => exact ⟨hb, ho, rfl, rfl, rfl⟩
  | @step members overrides key path old new b o hold hnew h ih =>
    obtain ⟨hb', ho', eb, eo, em⟩ := ih (hb.of_member? hold) (ho.of_member? hnew)
    refine ⟨hb', ho', ?_, ?_, ?_⟩
    · rw [List.cons_append, at?_object, hold, Option.bind_some, eb]
    · rw [List.cons_append, at?_object, hnew, Option.bind_some, eo]
    · rw [List.cons_append, merge, at?_object, member?_mergeMembers hb.nodup ho.nodup, hold, hnew]
      exact em

/-- What a merged object has below a key. -/
theorem at?_merge_object (hb : DistinctKeys (.object members))
    (ho : DistinctKeys (.object overrides)) (path : List String) :
    at? (key :: path) (merge (.object members) (.object overrides)) =
      (mergeValue? (member? key members) (member? key overrides)).bind (at? path) := by
  rw [merge, at?_object, member?_mergeMembers hb.nodup ho.nodup]

/-- What is found where one document is laid over another, told by walking a path in both. -/
structure LaidOver (base overlay merged : Json) : Prop where
  /-- A key that only the overlay has leads to what the overlay has. -/
  onlyInOverlay : ∀ {path members overrides key value},
    WalksTo base overlay path (.object members) (.object overrides) →
    member? key members = none → member? key overrides = some value →
    ∀ rest, at? (path ++ key :: rest) merged = at? (path ++ key :: rest) overlay
  /-- A key that only the base has leads to what the base has. -/
  onlyInBase : ∀ {path members overrides key value},
    WalksTo base overlay path (.object members) (.object overrides) →
    member? key members = some value → member? key overrides = none →
    ∀ rest, at? (path ++ key :: rest) merged = at? (path ++ key :: rest) base
  /-- A key that neither has leads to nothing. -/
  inNeither : ∀ {path members overrides key},
    WalksTo base overlay path (.object members) (.object overrides) →
    member? key members = none → member? key overrides = none →
    ∀ rest, at? (path ++ key :: rest) merged = none
  /-- Where one of them is no object the overlay's value stands. -/
  notBothObjects : ∀ {path b o}, WalksTo base overlay path b o →
    (b.isObject && o.isObject) = false → at? path merged = some o
  /-- Where both are objects there is an object. -/
  bothObjects : ∀ {path members overrides},
    WalksTo base overlay path (.object members) (.object overrides) →
    ∃ merged', at? path merged = some (.object merged')

theorem laidOver_merge (hb : base.DistinctKeys) (ho : overlay.DistinctKeys) :
    LaidOver base overlay (merge base overlay) where
  onlyInOverlay := by
    intro path members overrides key value h hold hnew rest
    obtain ⟨hb, ho, -, eo, em⟩ := h.at?_merge hb ho (key :: rest)
    rw [em, eo, at?_merge_object hb ho, at?_object, hold, hnew]
    rfl
  onlyInBase := by
    intro path members overrides key value h hold hnew rest
    obtain ⟨hb, ho, eb, -, em⟩ := h.at?_merge hb ho (key :: rest)
    rw [em, eb, at?_merge_object hb ho, at?_object, hold, hnew]
    rfl
  inNeither := by
    intro path members overrides key h hold hnew rest
    obtain ⟨hb, ho, -, -, em⟩ := h.at?_merge hb ho (key :: rest)
    rw [em, at?_merge_object hb ho, hold, hnew]
    rfl
  notBothObjects := by
    intro path b o h hn
    obtain ⟨-, -, -, -, em⟩ := h.at?_merge hb ho []
    rw [List.append_nil] at em
    rw [em]
    obtain ⟨_, _, rfl, rfl, -⟩ | ⟨-, heq⟩ := merge_cases b o
    · cases hn
    · rw [heq]
      rfl
  bothObjects := by
    intro path members overrides h
    obtain ⟨-, -, -, -, em⟩ := h.at?_merge hb ho []
    rw [List.append_nil] at em
    exact ⟨mergeMembers members overrides, by rw [em, merge, at?]⟩

/-! ## What is found where -/

theorem at?_of_lacks {path : List String} (h : document.Lacks path) : at? path document = none := by
  induction h with
  | here path h => rw [at?_object, h, Option.bind_none]
  | there hk h ih => rw [at?_object, hk, Option.bind_some, ih]

theorem lacks_cons_iff {path : List String} {value : Json} (h : member? key members = some value) :
    (object members).Lacks (key :: path) ↔ value.Lacks path := by
  constructor
  · rintro (⟨_, hn⟩ | ⟨hk, hl⟩)
    · rw [h] at hn
      cases hn
    · rw [h] at hk
      cases hk
      exact hl
  · exact .there h

theorem isObject_of_lacks {path : List String} (h : document.Lacks path) :
    document.isObject = true := by
  cases h <;> rfl

/-- There is what the base has where the overlay lacks the path, and elsewhere what the overlay has,
but for what is in objects. A value of the base that is no object does not change what is in
them. -/
theorem at?_merge_cases (path : List String) (hb : base.DistinctKeys) (ho : overlay.DistinctKeys) :
    overlay.Lacks path ∧ at? path (merge base overlay) = at? path base ∨
    ¬overlay.Lacks path ∧
      (at? path (merge base overlay)).map outline = (at? path overlay).map outline ∧
      ∀ value, value.isObject = false → at? path base = some value →
        at? path (merge base overlay) = at? path overlay := by
  induction path generalizing base overlay with
  | nil =>
    refine .inr ⟨nofun, ?_⟩
    obtain ⟨members, overrides, rfl, rfl, heq⟩ | ⟨-, heq⟩ := merge_cases base overlay
    · rw [heq]
      refine ⟨rfl, fun value hv hbase => ?_⟩
      cases hbase
      cases hv
    · rw [heq]
      exact ⟨rfl, fun _ _ _ => rfl⟩
  | cons key path ih =>
    obtain ⟨members, overrides, rfl, rfl, -⟩ | ⟨hn, heq⟩ := merge_cases base overlay
    · rw [at?_merge_object hb ho, at?_object, at?_object]
      cases hnew : member? key overrides with
      | none =>
        refine .inl ⟨.here path hnew, ?_⟩
        cases member? key members <;> rfl
      | some new =>
        rw [lacks_cons_iff hnew]
        cases hold : member? key members with
        | some old => exact ih (hb.of_member? hold) (ho.of_member? hnew)
        | none =>
          by_cases hl : new.Lacks path
          · exact .inl ⟨hl, at?_of_lacks hl⟩
          · exact .inr ⟨hl, rfl, fun _ _ _ => rfl⟩
    · rw [heq]
      by_cases hl : overlay.Lacks (key :: path)
      · -- The overlay is an object, hence the base is none and has nothing below itself.
        rw [isObject_of_lacks hl, Bool.and_true] at hn
        exact .inl ⟨hl, by rw [at?_of_lacks hl, at?_of_not_isObject hn]⟩
      · exact .inr ⟨hl, rfl, fun _ _ _ => rfl⟩

theorem outline_of_not_isObject (h : document.isObject = false) : document.outline = document := by
  cases document <;> first | rfl | cases h

theorem isObject_outline : document.outline.isObject = document.isObject := by
  cases document <;> rfl

theorem eq_of_outline_eq {value other : Json} (h : value.outline = other.outline)
    (hv : value.isObject = false) : other = value := by
  have ho : other.isObject = false := by rw [← isObject_outline, ← h, isObject_outline, hv]
  rw [← outline_of_not_isObject ho, ← h, outline_of_not_isObject hv]

/-- A document laid over another one has at each path what walking the path in both tells. Hence all
of the overlay that is no object is found, and of the base what the overlay lacks the path of;
nothing else is found, no key stands twice, and laying the same document over it again only changes
the order of members. -/
theorem merge_byPaths (hb : base.DistinctKeys) (ho : overlay.DistinctKeys) :
    LaidOver base overlay (merge base overlay) ∧
    (∀ path value, value.isObject = false → at? path overlay = some value →
      at? path (merge base overlay) = some value) ∧
    (∀ path value, value.isObject = false → at? path base = some value →
      (overlay.Lacks path → at? path (merge base overlay) = some value) ∧
      (¬overlay.Lacks path → at? path (merge base overlay) = at? path overlay)) ∧
    (∀ path value, at? path (merge base overlay) = some value →
      (∃ new, at? path overlay = some new ∧ new.outline = value.outline) ∨
        overlay.Lacks path ∧ at? path base = some value) ∧
    (merge base overlay).DistinctKeys ∧
    Reordered (merge (merge base overlay) overlay) (merge base overlay) := by
  refine ⟨laidOver_merge hb ho, fun path value hv hnew => ?_, fun path value hv hold => ?_,
    fun path value hm => ?_, hb.merge ho, reordered_merge_merge hb ho⟩
  all_goals obtain ⟨hl, hat⟩ | ⟨hl, hat, hbase⟩ := at?_merge_cases path hb ho
  · rw [at?_of_lacks hl] at hnew
    cases hnew
  · rw [hnew, Option.map_some, Option.map_eq_some_iff] at hat
    obtain ⟨found, hfound, he⟩ := hat
    rw [hfound, eq_of_outline_eq he.symm hv]
  · exact ⟨fun _ => hat.trans hold, fun hn => absurd hl hn⟩
  · exact ⟨fun hn => absurd hn hl, fun _ => hbase value hv hold⟩
  · exact .inr ⟨hl, hat ▸ hm⟩
  · rw [hm, Option.map_some] at hat
    obtain ⟨new, hnew, he⟩ := Option.map_eq_some_iff.mp hat.symm
    exact .inl ⟨new, hnew, he⟩

/-- A section of which one entry is overlaid, and one entry added. -/
theorem merge_byPaths_section :
    let base := object [("a", object [("b", int 1), ("c", int 2)]), ("d", null)]
    let overlay := object [("a", object [("c", int 3), ("e", array [])]), ("f", object [])]
    base.DistinctKeys ∧ overlay.DistinctKeys ∧
      at? ["a", "b"] (merge base overlay) = some (int 1) ∧
      at? ["a", "c"] (merge base overlay) = some (int 3) ∧
      Reordered (merge (merge base overlay) overlay) (merge base overlay) := by
  intro base overlay
  have hb : base.DistinctKeys := by simp [base, DistinctKeys, DistinctKeysInMembers]
  have ho : overlay.DistinctKeys := by
    simp [overlay, DistinctKeys, DistinctKeysInMembers, DistinctKeysInItems]
  obtain ⟨-, hoverlay, hbase, -, -, hagain⟩ := merge_byPaths hb ho
  refine ⟨hb, ho, (hbase ["a", "b"] (int 1) rfl rfl).1 ?_, hoverlay _ _ rfl rfl, hagain⟩
  exact .there rfl (.here [] rfl)

end FieldMap.Json
