import FieldMap.Proofs.Members
import FieldMap.Value
import Mathlib.Order.Lattice

/-!
# Equality of values

Equality of numbers, documents and values is not identity: the two zeros are equal, what is no
number is not equal to itself, and objects are equal up to the order of their members. It is
symmetric all the same (`Binary64.beq_comm`, `Json.same_comm`, `Value.same_comm`), given that no
object has a key twice. `Json.sameMembers` looks only for one object's members in the other one;
that no member of the other one is left over follows as both have as many keys
(`Json.subset_of_keys_subset`). Whether two documents are identical is decided too (`Json.decEq`),
so that what a text is read as can be told by evaluation.
-/

namespace FieldMap

/-! ## Numbers -/

theorem Binary64.beq_comm (x y : Binary64) : (x == y) = (y == x) := by
  show eq x y = eq y x
  cases x with
  | finite s m e _ =>
    cases y with
    | finite s' m' e' _ =>
      rw [eq, eq, min_comm e' e]
      exact decide_eq_decide.mpr eq_comm
    | _ => rfl
  | infinite negative =>
    cases y with
    | infinite negative' => exact Bool.beq_comm
    | _ => rfl
  | nan => cases y <;> rfl

/-! ## Documents -/

namespace Json

variable {a b : Json} {as bs : List Json} {members others : Members}

theorem sameMembers_eq_true_iff : sameMembers members others = true ↔
    ∀ key a, (key, a) ∈ members → ∃ b, member? key others = some b ∧ same a b = true := by
  induction members with
  | nil => exact iff_of_true rfl fun _ _ hm => absurd hm List.not_mem_nil
  | cons member rest ih =>
    obtain ⟨k, v⟩ := member
    rw [sameMembers, Bool.and_eq_true, ih]
    constructor
    · rintro ⟨hv, hrest⟩ key a hm
      rcases List.mem_cons.mp hm with he | hm
      · cases he
        cases hk : member? k others with
        | none =>
          rw [hk] at hv
          cases hv
        | some b =>
          rw [hk] at hv
          exact ⟨b, rfl, hv⟩
      · exact hrest key a hm
    · intro h
      obtain ⟨b, hk, hb⟩ := h k v List.mem_cons_self
      rw [hk]
      exact ⟨hb, fun key a hm => h key a (List.mem_cons_of_mem _ hm)⟩

/-- Different keys that all occur in an object with as many members are all of its keys. -/
theorem subset_of_keys_subset (hn : (members.map Prod.fst).Nodup)
    (hl : members.length = others.length) (hs : members.map Prod.fst ⊆ others.map Prod.fst) :
    others.map Prod.fst ⊆ members.map Prod.fst := by
  have hlength : (others.map Prod.fst).length ≤ (members.map Prod.fst).length := by
    rw [List.length_map, List.length_map, hl]
  exact ((List.subperm_of_subset hn hs).perm_of_length_le hlength).symm.subset

/-- Equality of objects is symmetric where equality of their members' values is. -/
theorem same_object_symm (ha : DistinctKeys (.object members)) (hb : DistinctKeys (.object others))
    (hvalues : ∀ key a b, (key, a) ∈ members → b.DistinctKeys → same a b = true → same b a = true)
    (h : same (.object members) (.object others) = true) :
    same (.object others) (.object members) = true := by
  rw [same, Bool.and_eq_true, beq_iff_eq, sameMembers_eq_true_iff] at h ⊢
  obtain ⟨hl, hm⟩ := h
  have hs : members.map Prod.fst ⊆ others.map Prod.fst := fun key hk => by
    obtain ⟨a, hka⟩ := mem_keys_iff.mp hk
    obtain ⟨b, hkb, -⟩ := hm key a (mem_of_member? hka)
    exact mem_keys_iff.mpr ⟨b, hkb⟩
  refine ⟨hl.symm, fun key b hkb => ?_⟩
  have hk := subset_of_keys_subset ha.nodup hl hs (List.mem_map_of_mem hkb)
  obtain ⟨a, hka⟩ := mem_keys_iff.mp hk
  obtain ⟨b', hkb', hab⟩ := hm key a (mem_of_member? hka)
  cases ((member?_eq_some_iff hb.nodup).mpr hkb).symm.trans hkb'
  exact ⟨a, hka, hvalues key a b (mem_of_member? hka) (hb.of_member? hkb') hab⟩

mutual

theorem same_symm {a b : Json} (ha : a.DistinctKeys) (hb : b.DistinctKeys)
    (h : same a b = true) : same b a = true := by
  match a with
  | .null => cases b <;> exact h
  | .bool _ | .int _ | .string _ => cases b <;> first | exact BEq.symm h | cases h
  | .float x =>
    cases b with
    | float y => exact (Binary64.beq_comm y x).trans h
    | _ => cases h
  | .array as =>
    cases b with
    | array bs => exact sameItems_symm ha hb h
    | _ => cases h
  | .object members =>
    cases b with
    | object others =>
      have hvalues := (distinctKeys_object_iff.mp ha).2
      exact same_object_symm ha hb (fun _ _ _ hm hb h => same_symm_of_mem hvalues hm hb h) h
    | _ => cases h

theorem sameItems_symm {as bs : List Json} (ha : DistinctKeysInItems as)
    (hb : DistinctKeysInItems bs) (h : sameItems as bs = true) : sameItems bs as = true := by
  match as, bs with
  | [], [] => exact h
  | a :: as, b :: bs =>
    rw [sameItems, Bool.and_eq_true] at h ⊢
    exact ⟨same_symm ha.1 hb.1 h.1, sameItems_symm ha.2 hb.2 h.2⟩

theorem same_symm_of_mem {members : Members} {key : String} {a b : Json}
    (hd : ∀ key a, (key, a) ∈ members → a.DistinctKeys) (hm : (key, a) ∈ members)
    (hb : b.DistinctKeys) (h : same a b = true) : same b a = true := by
  match members with
  | (k, v) :: rest =>
    rcases List.mem_cons.mp hm with he | hm
    · cases he
      exact same_symm (hd _ _ List.mem_cons_self) hb h
    · exact same_symm_of_mem (fun key a hm => hd key a (List.mem_cons_of_mem _ hm)) hm hb h

end

theorem same_comm {a b : Json} (ha : a.DistinctKeys) (hb : b.DistinctKeys) :
    same a b = same b a :=
  Bool.eq_iff_iff.mpr ⟨same_symm ha hb, same_symm hb ha⟩

/-! ## Identity of documents -/

mutual

/-- Whether two documents are identical, in the order of their members as well. -/
def decEq (a b : Json) : Decidable (a = b) :=
  match a, b with
  | .null, .null => isTrue rfl
  | .bool a, .bool b => decidable_of_iff (a = b) (by rw [bool.injEq])
  | .int a, .int b => decidable_of_iff (a = b) (by rw [int.injEq])
  | .float a, .float b => decidable_of_iff (a = b) (by rw [float.injEq])
  | .string a, .string b => decidable_of_iff (a = b) (by rw [string.injEq])
  | .array as, .array bs =>
    have := decEqItems as bs
    decidable_of_iff (as = bs) (by rw [array.injEq])
  | .object members, .object others =>
    have := decEqMembers members others
    decidable_of_iff (members = others) (by rw [object.injEq])
  | .null, .bool _ | .null, .int _ | .null, .float _ | .null, .string _ | .null, .array _
  | .null, .object _ | .bool _, .null | .bool _, .int _ | .bool _, .float _ | .bool _, .string _
  | .bool _, .array _ | .bool _, .object _ | .int _, .null | .int _, .bool _ | .int _, .float _
  | .int _, .string _ | .int _, .array _ | .int _, .object _ | .float _, .null | .float _, .bool _
  | .float _, .int _ | .float _, .string _ | .float _, .array _ | .float _, .object _
  | .string _, .null | .string _, .bool _ | .string _, .int _ | .string _, .float _
  | .string _, .array _ | .string _, .object _ | .array _, .null | .array _, .bool _
  | .array _, .int _ | .array _, .float _ | .array _, .string _ | .array _, .object _
  | .object _, .null | .object _, .bool _ | .object _, .int _ | .object _, .float _
  | .object _, .string _ | .object _, .array _ => isFalse nofun

/-- Whether two lists have identical items. -/
def decEqItems (as bs : List Json) : Decidable (as = bs) :=
  match as, bs with
  | [], [] => isTrue rfl
  | a :: as, b :: bs =>
    have := decEq a b
    have := decEqItems as bs
    decidable_of_iff (a = b ∧ as = bs) (by rw [List.cons.injEq])
  | [], _ :: _ | _ :: _, [] => isFalse nofun

/-- Whether two objects have identical members. -/
def decEqMembers (members others : Members) : Decidable (members = others) :=
  match members, others with
  | [], [] => isTrue rfl
  | (key, a) :: rest, (key', b) :: rest' =>
    have := decEq a b
    have := decEqMembers rest rest'
    decidable_of_iff ((key = key' ∧ a = b) ∧ rest = rest') (by rw [List.cons.injEq, Prod.mk.injEq])
  | [], _ :: _ | _ :: _, [] => isFalse nofun

end

instance : DecidableEq Json :=
  decEq

end Json

/-! ## Values -/

namespace Value

mutual

/-- No object in the documents of a value has a key twice. -/
def DistinctKeys : Value → Prop
  | .json document => document.DistinctKeys
  | .list items => DistinctKeysInItems items
  | _ => True

/-- No object in the documents of a list's items has a key twice. -/
def DistinctKeysInItems : List Value → Prop
  | [] => True
  | item :: rest => DistinctKeys item ∧ DistinctKeysInItems rest

end

mutual

theorem same_symm {a b : Value} (ha : a.DistinctKeys) (hb : b.DistinctKeys)
    (h : same a b = true) : same b a = true := by
  match a with
  | .null => cases b <;> exact h
  | .bool _ | .int _ | .string _ | .date _ | .time _ | .uuid _ =>
    cases b <;> first | exact BEq.symm h | cases h
  | .dateTime _ _ =>
    cases b with
    | dateTime _ _ =>
      obtain ⟨hd, ht⟩ := Bool.and_eq_true_iff.mp h
      exact Bool.and_eq_true_iff.mpr ⟨BEq.symm hd, BEq.symm ht⟩
    | _ => cases h
  | .float x =>
    cases b with
    | float y => exact (Binary64.beq_comm y x).trans h
    | _ => cases h
  | .json document =>
    cases b with
    | json other => exact Json.same_symm ha hb h
    | _ => cases h
  | .list as =>
    cases b with
    | list bs => exact sameItems_symm ha hb h
    | _ => cases h

theorem sameItems_symm {as bs : List Value} (ha : DistinctKeysInItems as)
    (hb : DistinctKeysInItems bs) (h : sameItems as bs = true) : sameItems bs as = true := by
  match as, bs with
  | [], [] => exact h
  | a :: as, b :: bs =>
    rw [sameItems, Bool.and_eq_true] at h ⊢
    exact ⟨same_symm ha.1 hb.1 h.1, sameItems_symm ha.2 hb.2 h.2⟩

end

theorem same_comm {a b : Value} (ha : a.DistinctKeys) (hb : b.DistinctKeys) :
    same a b = same b a :=
  Bool.eq_iff_iff.mpr ⟨same_symm ha hb, same_symm hb ha⟩

end Value

end FieldMap
