import FieldMap.Proofs.Members
import FieldMap.Serializer.Field
import Mathlib.Data.Finset.Card

/-!
# Histories of registrations

What a class table answers is told by the history of its registrations: the pairs it was made of and
the insertions since. A class has the value that was registered for it last
(`ClassTable.LastRegistered`). A table that holds exactly these values reflects the history
(`ClassTable.Reflects`); an insertion keeps this up (`Reflects.insert`), and so does a run of them
(`Reflects.insertAll`). A lookup then finds the nearest class that was ever registered
(`Reflects.find_eq_ok_iff`), and an insertion changes the answer only for the classes that it
reaches (`Reflects.find_insert`).
-/

namespace FieldMap.ClassTable

variable {Class Value : Type} {history : List (Class × Value)} {c k : Class} {v w : Value}

/-! ## Histories -/

/-- Whether a history, earliest first, has registered a class. -/
def Registered (history : List (Class × Value)) (c : Class) : Prop :=
  c ∈ history.map Prod.fst

/-- The value that a history has registered for a class last. -/
def LastRegistered (history : List (Class × Value)) (c : Class) (value : Value) : Prop :=
  ∃ before after, history = before ++ (c, value) :: after ∧ ¬Registered after c

/-- The value that a history has registered last for the first class of a lineage that it has
registered at all. -/
def NearestRegistered (history : List (Class × Value)) (lineage : List Class) (value : Value) :
    Prop :=
  ∃ nearer k farther, lineage = nearer ++ k :: farther ∧ (∀ a ∈ nearer, ¬Registered history a) ∧
    LastRegistered history k value

/-- Whether a class comes in a lineage before every class that a history has registered. -/
def Reaches (history : List (Class × Value)) (k : Class) (lineage : List Class) : Prop :=
  ∃ nearer farther, lineage = nearer ++ k :: farther ∧ ∀ a ∈ nearer, ¬Registered history a

theorem registered_concat : Registered (history ++ [(k, v)]) c ↔ Registered history c ∨ c = k := by
  simp only [Registered, List.map_append, List.mem_append, List.map_cons, List.map_nil,
    List.mem_singleton]

theorem LastRegistered.registered (h : LastRegistered history c v) : Registered history c := by
  obtain ⟨before, after, rfl, -⟩ := h
  simp [Registered]

/-- What was registered last after one more registration. -/
theorem lastRegistered_concat :
    LastRegistered (history ++ [(k, v)]) c w ↔
      c = k ∧ w = v ∨ c ≠ k ∧ LastRegistered history c w := by
  constructor
  · rintro ⟨before, after, he, hn⟩
    rcases List.eq_nil_or_concat after with rfl | ⟨after, entry, rfl⟩
    · obtain ⟨-, hkv⟩ := List.append_inj' he rfl
      cases hkv
      exact .inl ⟨rfl, rfl⟩
    · rw [List.concat_eq_append, ← List.cons_append, ← List.append_assoc] at he
      obtain ⟨rfl, hkv⟩ := List.append_inj' he rfl
      cases hkv
      rw [List.concat_eq_append, registered_concat, not_or] at hn
      exact .inr ⟨hn.2, before, after, rfl, hn.1⟩
  · rintro (⟨rfl, rfl⟩ | ⟨hck, before, after, rfl, hn⟩)
    · exact ⟨history, [], rfl, List.not_mem_nil⟩
    · refine ⟨before, after ++ [(k, v)], List.append_assoc .., ?_⟩
      rw [registered_concat, not_or]
      exact ⟨hn, hck⟩

theorem exists_lastRegistered (h : Registered history c) : ∃ v, LastRegistered history c v := by
  induction history using List.reverseRecOn with
  | nil => exact absurd h List.not_mem_nil
  | append_singleton history entry ih =>
    obtain ⟨k, v⟩ := entry
    simp only [lastRegistered_concat]
    by_cases hck : c = k
    · exact ⟨v, .inl ⟨hck, rfl⟩⟩
    · obtain ⟨w, hw⟩ := ih ((registered_concat.mp h).resolve_right hck)
      exact ⟨w, .inr ⟨hck, hw⟩⟩

/-! ## Tables that reflect a history -/

theorem isEmpty_iff {table : ClassTable Class Value} : table.isEmpty = true ↔ table.size = 0 :=
  List.isEmpty_iff.trans List.length_eq_zero_iff.symm

variable [DecidableEq Class]

/-- Registers values one after the other; also what each registration replaces. -/
def insertAll (table : ClassTable Class Value) :
    List (Class × Value) → List (Option Value) × ClassTable Class Value
  | [] => ([], table)
  | (c, value) :: rest =>
    let inserted := table.insert c value
    let last := inserted.2.insertAll rest
    (inserted.1 :: last.1, last.2)

theorem ofList_eq_insertAll (pairs : List (Class × Value)) :
    ofList pairs = (empty.insertAll pairs).2 := by
  rw [ofList]
  generalize empty = table
  induction pairs generalizing table with
  | nil => rfl
  | cons pair rest ih => exact ih _

theorem length_insertAll (table : ClassTable Class Value) (inserts : List (Class × Value)) :
    (table.insertAll inserts).1.length = inserts.length := by
  induction inserts generalizing table with
  | nil => rfl
  | cons insertion rest ih => exact congrArg (· + 1) (ih _)

/-- Each insertion replaces what the table held for its class after the insertions before it. -/
theorem getElem?_insertAll (table : ClassTable Class Value) (before after : List (Class × Value)) :
    (table.insertAll (before ++ (c, v) :: after)).1[before.length]? =
      some ((table.insertAll before).2.get? c) := by
  induction before generalizing table with
  | nil => rfl
  | cons insertion rest ih => exact ih _

/-- A table holds what a history has registered last, and nothing else. -/
def Reflects (table : ClassTable Class Value) (history : List (Class × Value)) : Prop :=
  ∀ c value, table.get? c = some value ↔ LastRegistered history c value

variable {table : ClassTable Class Value}

theorem reflects_empty : (empty : ClassTable Class Value).Reflects [] := by
  refine fun c value => iff_of_false nofun fun h => ?_
  exact absurd h.registered List.not_mem_nil

/-- One more insertion is one more registration. -/
theorem Reflects.insert (h : table.Reflects history) (k : Class) (v : Value) :
    (table.insert k v).2.Reflects (history ++ [(k, v)]) := by
  intro c w
  rw [get?_insert, lastRegistered_concat]
  by_cases hck : c = k
  · simp only [hck, if_true, Option.some.injEq, true_and, ne_eq, not_true_eq_false, false_and,
      or_false, eq_comm]
  · simp only [hck, if_false, false_and, false_or, ne_eq, not_false_eq_true, true_and, h c w]

theorem Reflects.insertAll (h : table.Reflects history) (inserts : List (Class × Value)) :
    (table.insertAll inserts).2.Reflects (history ++ inserts) := by
  induction inserts generalizing table history with
  | nil =>
    rw [List.append_nil]
    exact h
  | cons insertion rest ih =>
    obtain ⟨k, v⟩ := insertion
    rw [← List.singleton_append, ← List.append_assoc]
    exact ih (h.insert k v)

theorem reflects_ofList (pairs : List (Class × Value)) : (ofList pairs).Reflects pairs := by
  rw [ofList_eq_insertAll]
  exact reflects_empty.insertAll pairs

theorem Reflects.get?_eq_none_iff (h : table.Reflects history) :
    table.get? c = none ↔ ¬Registered history c := by
  rw [← not_iff_not, not_not, ← ne_eq, Option.ne_none_iff_exists']
  simp only [h c]
  exact ⟨fun ⟨_, hv⟩ => hv.registered, exists_lastRegistered⟩

/-- A table has as many entries as classes were ever registered. -/
theorem Reflects.size_eq (h : table.Reflects history) :
    table.size = (history.map Prod.fst).toFinset.card := by
  have hkeys : (history.map Prod.fst).toFinset = (table.entries.map Prod.fst).toFinset := by
    ext c
    have hc : table.get? c = none ↔ c ∉ table.entries.map Prod.fst := lookup_eq_none_iff
    rw [List.mem_toFinset, List.mem_toFinset, ← not_iff_not]
    exact h.get?_eq_none_iff.symm.trans hc
  rw [hkeys, List.toFinset_card_of_nodup table.distinct, List.length_map, size]

/-! ## Lookups -/

variable [ClassHierarchy Class]

theorem find_eq_ok_iff : table.find c = .ok v ↔
    (ClassHierarchy.lineage c).findSome? table.get? = some v := by
  rw [find]
  split
  · rename_i w hw
    rw [hw, Except.ok.injEq, Option.some.injEq]
  · rename_i hn
    rw [hn]
    exact iff_of_false nofun nofun

/-- A lookup finds the value of the nearest class that was ever registered. -/
theorem Reflects.find_eq_ok_iff (h : table.Reflects history) :
    table.find c = .ok v ↔ NearestRegistered history (ClassHierarchy.lineage c) v := by
  rw [ClassTable.find_eq_ok_iff, List.findSome?_eq_some_iff]
  simp only [h.get?_eq_none_iff, h _ v]
  exact exists_congr fun _ => exists_congr fun _ => exists_congr fun _ =>
    and_congr_right fun _ => and_comm

/-- A lookup fails if no class of the lineage was ever registered. -/
theorem Reflects.find_eq_error_iff (h : table.Reflects history) {e : ClassNotFound} :
    table.find c = .error e ↔
      (∀ a ∈ ClassHierarchy.lineage c, ¬Registered history a) ∧ e = ⟨ClassHierarchy.name c⟩ := by
  have hmissing : (ClassHierarchy.lineage c).findSome? table.get? = none ↔
      ∀ a ∈ ClassHierarchy.lineage c, ¬Registered history a := by
    rw [List.findSome?_eq_none_iff]
    simp only [h.get?_eq_none_iff]
  rw [← hmissing, find]
  split
  · rename_i w hw
    rw [hw]
    exact iff_of_false nofun nofun
  · rename_i hn
    rw [hn, Except.error.injEq, eq_comm]
    exact (and_iff_right rfl).symm

/-- A class that an insertion reaches has the inserted value from then on. -/
theorem Reflects.find_insert_of_reaches (h : table.Reflects history)
    (hr : Reaches history k (ClassHierarchy.lineage c)) :
    (table.insert k v).2.find c = .ok v := by
  obtain ⟨nearer, farther, hl, hn⟩ := hr
  -- The inserted class may stand more than once in the lineage; its first place counts.
  have hmem : k ∈ nearer ++ [k] := List.mem_append_right _ List.mem_cons_self
  obtain ⟨before, between, hb, hk⟩ := List.eq_append_cons_of_mem hmem
  refine (h.insert k v).find_eq_ok_iff.mpr ⟨before, k, between ++ farther, ?_, fun a ha hreg => ?_,
    lastRegistered_concat.mpr (.inl ⟨rfl, rfl⟩)⟩
  · rw [hl, ← List.singleton_append, ← List.append_assoc, hb, List.append_assoc, List.cons_append]
  · have hak : a ≠ k := fun e => hk (e ▸ ha)
    have ham : a ∈ nearer ++ [k] := hb ▸ List.mem_append_left _ ha
    have han : a ∈ nearer :=
      (List.mem_append.mp ham).resolve_right fun hm => hak (List.mem_singleton.mp hm)
    exact hn a han ((registered_concat.mp hreg).resolve_right hak)

/-- A class that an insertion does not reach keeps its answer. -/
theorem Reflects.find_insert_of_not_reaches (h : table.Reflects history)
    (hr : ¬Reaches history k (ClassHierarchy.lineage c)) :
    (table.insert k v).2.find c = table.find c := by
  cases hf : table.find c with
  | error e =>
    obtain ⟨hn, rfl⟩ := h.find_eq_error_iff.mp hf
    refine (h.insert k v).find_eq_error_iff.mpr ⟨fun a ha hreg => ?_, rfl⟩
    rcases registered_concat.mp hreg with hreg | rfl
    · exact hn a ha hreg
    · obtain ⟨nearer, farther, hl⟩ := List.append_of_mem ha
      exact hr ⟨nearer, farther, hl, fun x hx => hn x (hl ▸ List.mem_append_left _ hx)⟩
  | ok w =>
    obtain ⟨nearer, found, farther, hl, hn, hw⟩ := h.find_eq_ok_iff.mp hf
    have hfound : found ≠ k := by
      rintro rfl
      exact hr ⟨nearer, farther, hl, hn⟩
    refine (h.insert k v).find_eq_ok_iff.mpr ⟨nearer, found, farther, hl, fun a ha hreg => ?_,
      lastRegistered_concat.mpr (.inr ⟨hfound, hw⟩)⟩
    rcases registered_concat.mp hreg with hreg | rfl
    · exact hn a ha hreg
    · obtain ⟨before, between, hb⟩ := List.append_of_mem ha
      refine hr ⟨before, between ++ found :: farther, ?_,
        fun x hx => hn x (hb ▸ List.mem_append_left _ hx)⟩
      rw [hl, hb, List.append_assoc, List.cons_append]

/-- A table that was made of pairs and then had values inserted answers by the history of its
registrations. It finds the value registered last for the nearest class that was ever registered,
and fails, naming the class, if there is none. Each insertion gives back what was registered last
for its own class, and the size of the table is the number of registered classes. One more
insertion changes the answers for the classes that it reaches, to the inserted value, and no others.
A value is looked up by its class, a relation to many objects as such, and a bound field as the
field is. -/
theorem find_byHistory {Class Value : Type} [DecidableEq Class] [ClassHierarchy Class]
    (pairs inserts : List (Class × Value)) :
    let table := ((ofList pairs).insertAll inserts).2
    let replaced := ((ofList pairs).insertAll inserts).1
    let history := pairs ++ inserts
    (∀ c v, table.find c = .ok v ↔ NearestRegistered history (ClassHierarchy.lineage c) v) ∧
    (∀ c, (∃ e, table.find c = .error e) ↔
      ∀ a ∈ ClassHierarchy.lineage c, ¬Registered history a) ∧
    (∀ c e, table.find c = .error e →
      e.toError = .lookup ("Class " ++ ClassHierarchy.name c ++ " not found in lookup.")) ∧
    replaced.length = inserts.length ∧
    (∀ before c v after, inserts = before ++ (c, v) :: after →
      ∃ old, replaced[before.length]? = some old ∧
        ∀ w, old = some w ↔ LastRegistered (pairs ++ before) c w) ∧
    table.size = (history.map Prod.fst).toFinset.card ∧
    (table.isEmpty = true ↔ table.size = 0) ∧
    (∀ k v c, Reaches history k (ClassHierarchy.lineage c) → (table.insert k v).2.find c = .ok v) ∧
    (∀ k v c, ¬Reaches history k (ClassHierarchy.lineage c) →
      (table.insert k v).2.find c = table.find c) ∧
    (∀ {α : Type} [HasClass α Class] (x : α),
      table.findFor x = table.find (HasClass.lookupClass x)) ∧
    ∀ (serializers : ClassTable SerializerClass Value) (field : SerializerField)
      (bound : BoundField),
      serializers.findFor field =
        serializers.find (if field.isManyRelated then .manyRelated else field.serializerClass) ∧
      serializers.findFor bound = serializers.findFor bound.field := by
  intro table replaced history
  have h : table.Reflects history := (reflects_ofList pairs).insertAll inserts
  refine ⟨fun c v => h.find_eq_ok_iff, fun c => ?_, fun c e he => ?_, length_insertAll _ _,
    fun before c v after hi => ?_, h.size_eq, isEmpty_iff,
    fun k v c hr => h.find_insert_of_reaches hr, fun k v c hr => h.find_insert_of_not_reaches hr,
    fun x => rfl, fun serializers field bound => ⟨rfl, rfl⟩⟩
  · simp only [h.find_eq_error_iff, exists_and_left, exists_eq, and_true]
  · obtain ⟨-, rfl⟩ := h.find_eq_error_iff.mp he
    rfl
  · subst hi
    exact ⟨_, getElem?_insertAll _ before after, (reflects_ofList pairs).insertAll before c⟩

end FieldMap.ClassTable
