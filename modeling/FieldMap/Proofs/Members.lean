import FieldMap.ClassTable
import FieldMap.Json.Basic
import Mathlib.Data.List.Nodup
import Mathlib.Data.List.Perm.Basic

/-!
# Members of objects

Objects are lists of members, and only where no key stands twice does a list say what an object is.
`Json.DistinctKeys` says so of all objects in a document. Members are then known by their keys
(`member?_eq_some_iff`), and taking one away changes no other one (`perm_of_takeMember?`).
`Json.Reordered` is equality of documents up to the order of members.
-/

namespace FieldMap

theorem ClassTable.mem_putEntry {Class Value : Type} [DecidableEq Class] {c k : Class}
    {value v : Value} {entries : List (Class × Value)} (h : (k, v) ∈ putEntry c value entries) :
    v = value ∨ (k, v) ∈ entries := by
  induction entries with
  | nil =>
    cases List.mem_singleton.mp h
    exact .inl rfl
  | cons entry rest ih =>
    rw [putEntry] at h
    split at h
    · rcases List.mem_cons.mp h with he | hm
      · exact .inl (Prod.mk.inj he).2
      · exact .inr (List.mem_cons_of_mem _ hm)
    · rcases List.mem_cons.mp h with he | hm
      · exact .inr (he ▸ List.mem_cons_self)
      · exact (ih hm).imp_right (List.mem_cons_of_mem _)

theorem lookup_eq_none_iff {κ α : Type} [DecidableEq κ] {key : κ} {entries : List (κ × α)} :
    entries.lookup key = none ↔ key ∉ entries.map Prod.fst := by
  rw [List.lookup_eq_none_iff]
  simp only [bne_iff_ne, List.mem_map, not_exists, not_and]
  exact ⟨fun h p hp e => h p hp e.symm, fun h p hp e => h p hp e.symm⟩

theorem mem_of_lookup {α : Type} {key : String} {value : α} {entries : List (String × α)}
    (h : entries.lookup key = some value) : (key, value) ∈ entries := by
  obtain ⟨before, after, rfl, -⟩ := List.lookup_eq_some_iff.mp h
  exact List.mem_append_right _ List.mem_cons_self

/-- Where no key stands twice, each entry is the one that its key finds. -/
theorem lookup_eq_some_iff {α : Type} {key : String} {value : α} {entries : List (String × α)}
    (h : (entries.map Prod.fst).Nodup) :
    entries.lookup key = some value ↔ (key, value) ∈ entries := by
  refine ⟨mem_of_lookup, fun hm => ?_⟩
  cases ho : entries.lookup key with
  | none => exact absurd (List.mem_map_of_mem hm) (lookup_eq_none_iff.mp ho)
  | some other =>
    have := List.inj_on_of_nodup_map h hm (mem_of_lookup ho) rfl
    rw [(Prod.mk.inj this).2]

namespace Json

variable {key : String} {value : Json} {members : Members}

/-! ## Keys -/

theorem member?_cons (k : String) : member? k ((key, value) :: members) =
    if k = key then some value else member? k members := by
  rw [member?, List.lookup_cons]
  by_cases h : k = key
  · rw [if_pos h, beq_iff_eq.mpr h]
  · rw [if_neg h, beq_false_of_ne h]
    rfl

theorem member?_eq_none_iff : member? key members = none ↔ key ∉ members.map Prod.fst :=
  lookup_eq_none_iff

theorem mem_of_member? (h : member? key members = some value) : (key, value) ∈ members :=
  mem_of_lookup h

theorem mem_keys_iff : key ∈ members.map Prod.fst ↔ ∃ value, member? key members = some value := by
  rw [← Option.ne_none_iff_exists', ne_eq, member?_eq_none_iff, not_not]

/-- Where no key stands twice, each member is the one that its key finds. -/
theorem member?_eq_some_iff (h : (members.map Prod.fst).Nodup) :
    member? key members = some value ↔ (key, value) ∈ members :=
  lookup_eq_some_iff h

/-- Members in another order have the same values under the same keys. -/
theorem member?_congr_of_perm {others : Members} (h : (members.map Prod.fst).Nodup)
    (hp : members.Perm others) : member? key members = member? key others := by
  have ho : (others.map Prod.fst).Nodup := (hp.map Prod.fst).nodup h
  refine Option.ext fun value => ?_
  rw [member?_eq_some_iff h, member?_eq_some_iff ho, hp.mem_iff]

/-! ## Changes -/

theorem putMember_eq_putEntry :
    putMember members key value = ClassTable.putEntry key value members := by
  induction members with
  | nil => rfl
  | cons member rest ih => rw [putMember, ClassTable.putEntry, ih]

theorem splitAtKey_eq_some {before after : Members}
    (h : splitAtKey key members = some (before, value, after)) :
    members = before ++ (key, value) :: after := by
  induction members generalizing before with
  | nil => cases h
  | cons member rest ih =>
    obtain ⟨k, v⟩ := member
    rw [splitAtKey] at h
    split at h
    · rename_i hk
      cases h
      rw [hk]
      rfl
    · obtain ⟨⟨before', found, after'⟩, hs, he⟩ := Option.map_eq_some_iff.mp h
      cases he
      rw [ih hs]
      rfl

theorem splitAtKey_eq_none (h : splitAtKey key members = none) :
    key ∉ members.map Prod.fst := by
  induction members with
  | nil => exact List.not_mem_nil
  | cons member rest ih =>
    obtain ⟨k, v⟩ := member
    rw [splitAtKey] at h
    split at h
    · cases h
    · rename_i hk
      rw [List.map_cons, List.mem_cons, not_or]
      exact ⟨Ne.symm hk, ih (Option.map_eq_none_iff.mp h)⟩

/-- Taking a member away leaves the others, in some order. -/
theorem perm_of_takeMember? {others : Members}
    (h : takeMember? key members = some (value, others)) :
    members.Perm ((key, value) :: others) := by
  obtain ⟨⟨before, found, after⟩, hs, he⟩ := Option.map_eq_some_iff.mp h
  rw [splitAtKey_eq_some hs]
  dsimp only at he
  cases hlast : after.getLast? with
  | none =>
    rw [hlast] at he
    cases he
    rw [List.getLast?_eq_none_iff.mp hlast]
    exact List.perm_append_singleton _ _
  | some last =>
    rw [hlast] at he
    cases he
    -- The members after the place are all but the last one, and the last one.
    have hafter : after.dropLast ++ [last] = after := List.dropLast_append_getLast? last hlast
    have hperm : after.Perm (last :: after.dropLast) := by
      conv_lhs => rw [← hafter]
      exact List.perm_append_singleton last after.dropLast
    exact List.perm_middle.trans ((hperm.append_left before).cons _)

theorem not_mem_of_takeMember?_eq_none (h : takeMember? key members = none) :
    key ∉ members.map Prod.fst :=
  splitAtKey_eq_none (Option.map_eq_none_iff.mp h)

/-! ## Documents -/

mutual

/-- No object in a document has a key twice. -/
def DistinctKeys : Json → Prop
  | .array items => DistinctKeysInItems items
  | .object members => (members.map Prod.fst).Nodup ∧ DistinctKeysInMembers members
  | _ => True

/-- No object in a list of documents has a key twice. -/
def DistinctKeysInItems : List Json → Prop
  | [] => True
  | item :: rest => DistinctKeys item ∧ DistinctKeysInItems rest

/-- No object in the values of members has a key twice. -/
def DistinctKeysInMembers : Members → Prop
  | [] => True
  | (_, value) :: rest => DistinctKeys value ∧ DistinctKeysInMembers rest

end

theorem distinctKeys_array_iff {items : List Json} :
    DistinctKeys (.array items) ↔ ∀ item ∈ items, item.DistinctKeys := by
  rw [DistinctKeys]
  induction items with
  | nil => exact iff_of_true trivial nofun
  | cons item rest ih => rw [DistinctKeysInItems, ih, List.forall_mem_cons]

theorem distinctKeys_object_iff : DistinctKeys (.object members) ↔
    (members.map Prod.fst).Nodup ∧ ∀ key value, (key, value) ∈ members → value.DistinctKeys := by
  rw [DistinctKeys]
  refine and_congr_right' ?_
  induction members with
  | nil => exact iff_of_true trivial nofun
  | cons member rest ih =>
    obtain ⟨k, v⟩ := member
    rw [DistinctKeysInMembers, ih]
    constructor
    · rintro ⟨hv, hr⟩ key value hm
      rcases List.mem_cons.mp hm with he | hm
      · exact (Prod.mk.inj he).2 ▸ hv
      · exact hr key value hm
    · exact fun h => ⟨h k v List.mem_cons_self, fun key value hm =>
        h key value (List.mem_cons_of_mem _ hm)⟩

theorem DistinctKeys.nodup (h : DistinctKeys (.object members)) :
    (members.map Prod.fst).Nodup :=
  (distinctKeys_object_iff.mp h).1

theorem DistinctKeys.of_member? (h : DistinctKeys (.object members))
    (hm : member? key members = some value) : value.DistinctKeys :=
  (distinctKeys_object_iff.mp h).2 key value (mem_of_member? hm)

/-- What holds of a document if it holds of its members, should it be an object, holds of all. -/
theorem inductionOnMembers {P : Json → Prop}
    (step : ∀ document, (∀ members key value, document = .object members →
      member? key members = some value → P value) → P document) (document : Json) : P document := by
  refine step document fun members key value hd hm => ?_
  have hlt : sizeOf value < sizeOf document := by
    have := List.sizeOf_lt_of_mem (mem_of_member? hm)
    simp only [hd, Json.object.sizeOf_spec, Prod.mk.sizeOf_spec] at this ⊢
    omega
  exact inductionOnMembers step value
termination_by sizeOf document

/-- Whether a document is an object. -/
def isObject : Json → Bool
  | .object _ => true
  | _ => false

/-- The same document, but for the order of members in its objects. -/
inductive Reordered : Json → Json → Prop
  | refl (document : Json) : Reordered document document
  | array {as bs : List Json} (length : as.length = bs.length)
      (items : ∀ (i : Nat) (a b : Json), as[i]? = some a → bs[i]? = some b → Reordered a b) :
      Reordered (.array as) (.array bs)
  | object {as bs : Members} (keys : (as.map Prod.fst).Perm (bs.map Prod.fst))
      (values : ∀ key a b, member? key as = some a → member? key bs = some b → Reordered a b) :
      Reordered (.object as) (.object bs)

theorem Reordered.symm {document other : Json} (h : Reordered document other) :
    Reordered other document := by
  induction h with
  | refl document => exact .refl document
  | array length _ ih => exact .array length.symm fun i b a hb ha => ih i a b ha hb
  | object keys _ ih => exact .object keys.symm fun key b a hb ha => ih key a b ha hb

/-- A reordered object is an object with the same keys, which lead to the same but for order. -/
theorem Reordered.exists_eq_object {document : Json} (h : Reordered (.object members) document) :
    ∃ others, document = .object others ∧
      ∀ key, Option.Rel Reordered (member? key members) (member? key others) := by
  cases h with
  | refl =>
    refine ⟨members, rfl, fun key => ?_⟩
    cases member? key members with
    | none => exact .none
    | some value => exact .some (.refl value)
  | @object _ others keys values =>
    refine ⟨others, rfl, fun key => ?_⟩
    cases ha : member? key members with
    | none =>
      have hb := mt keys.mem_iff.mpr (member?_eq_none_iff.mp ha)
      rw [member?_eq_none_iff.mpr hb]
      exact .none
    | some value =>
      obtain ⟨other, hb⟩ := mem_keys_iff.mp (keys.mem_iff.mp (mem_keys_iff.mpr ⟨value, ha⟩))
      rw [hb]
      exact .some (values key value other ha hb)

end Json

end FieldMap
