import FieldMap.Json.Record
import FieldMap.Proofs.Members

/-!
# Reading records from members

A record is read member by member, each into a place of its own (`RecordShape.Places`). Where no key
stands twice the order of the members does not matter: a record is read if each member can be read
(`exists_readMembers`), and in each place then stands what the member under its key tells, or what
stood there before (`RecordShape.Places.of_readMembers`). Where a record is given as an array the
item at a field's position takes the part of that member (`RecordShape.Places.of_read_array`).
-/

namespace FieldMap.Json

theorem bind_eq_ok_iff {ε α β : Type} {x : Except ε α} {f : α → Except ε β} {b : β} :
    (x >>= f) = .ok b ↔ ∃ a, x = .ok a ∧ f a = .ok b := by
  cases x with
  | error e =>
    constructor
    · nofun
    · rintro ⟨a, ha, -⟩
      cases ha
  | ok a => exact ⟨fun h => ⟨a, rfl, h⟩, fun ⟨_, ha, h⟩ => Except.ok.inj ha ▸ h⟩

variable {Draft α : Type} {shape : RecordShape Draft} {key : String} {members : Members}

/-! ## Records -/

/-- The draft after a member has been read. -/
def RecordShape.readMember (shape : RecordShape Draft) (draft : Draft) (key : String)
    (value : Json) : Except DecodeError Draft :=
  match shape.fields.lookup key with
  | some read => read draft value
  | none => .ok draft

theorem readMembers_cons (draft : Draft) (value : Json) :
    shape.readMembers draft ((key, value) :: members) =
      shape.readMember draft key value >>= (shape.readMembers · members) :=
  rfl

theorem readMember_of_lookup {read : Draft → Json → Except DecodeError Draft}
    (h : shape.fields.lookup key = some read) (draft : Draft) (value : Json) :
    shape.readMember draft key value = read draft value := by
  rw [RecordShape.readMember, h]

theorem readMember_of_unknown (h : key ∉ shape.fields.map Prod.fst) (draft : Draft)
    (value : Json) : shape.readMember draft key value = .ok draft := by
  rw [RecordShape.readMember, lookup_eq_none_iff.mpr h]

/-- What a key leads to tells a value; where it leads to nothing the value is the default. -/
def TellsOr (tells : Json → α → Prop) (default value : α) : Option Json → Prop
  | some found => tells found value
  | none => value = default

theorem exists_tellsOr_iff {tells : Json → α → Prop} {default : α} {found : Option Json} :
    (∃ a, TellsOr tells default a found) ↔ ∀ value, found = some value → ∃ a, tells value a := by
  cases found with
  | none => exact iff_of_true ⟨default, rfl⟩ nofun
  | some value => exact ⟨fun h _ he => Option.some.inj he ▸ h, fun h => h value rfl⟩

theorem TellsOr.unique {tells : Json → α → Prop} {default a b : α} {found : Option Json}
    (hu : ∀ value, tells value a → tells value b → a = b)
    (ha : TellsOr tells default a found) (hb : TellsOr tells default b found) : a = b := by
  cases found with
  | none => exact ha.trans hb.symm
  | some value => exact hu value ha hb

/-- What related members tell is related, given that defaults are. -/
theorem TellsOr.exists_of_rel {R : Json → Json → Prop} {S : α → α → Prop}
    {tells : Json → α → Prop} {default a : α} {found found' : Option Json}
    (hr : Option.Rel R found found') (hd : S default default)
    (h : ∀ {value value'}, R value value' → tells value a → ∃ b, tells value' b ∧ S a b)
    (ha : TellsOr tells default a found) : ∃ b, TellsOr tells default b found' ∧ S a b := by
  cases hr with
  | none => exact ⟨default, rfl, show S a default from Eq.symm ha ▸ hd⟩
  | some hr => exact h hr ha

theorem TellsOr.of_rel {R : Json → Json → Prop} {tells : Json → α → Prop} {default a : α}
    {found found' : Option Json} (hr : Option.Rel R found found')
    (h : ∀ {value value'}, R value value' → tells value a → tells value' a)
    (ha : TellsOr tells default a found) : TellsOr tells default a found' := by
  obtain ⟨b, hb, rfl⟩ := ha.exists_of_rel hr rfl fun hr ht => ⟨a, h hr ht, rfl⟩
  exact hb

/-- The member under `key` is read into the place that `get` looks at, where it then stands as it
`tells`, and no other member is read into it. -/
structure RecordShape.Places (shape : RecordShape Draft) (key : String) (get : Draft → α)
    (tells : Json → α → Prop) : Prop where
  own : ∀ {draft filled value}, shape.readMember draft key value = .ok filled →
    tells value (get filled)
  others : ∀ {other draft filled value}, other ≠ key →
    shape.readMember draft other value = .ok filled → get filled = get draft

/-- In a place stands what the member under its key tells, or what stood there before. -/
theorem RecordShape.Places.of_readMembers {get : Draft → α} {tells : Json → α → Prop}
    (h : shape.Places key get tells) (hn : (members.map Prod.fst).Nodup) {draft filled : Draft}
    (hr : shape.readMembers draft members = .ok filled) :
    TellsOr tells (get draft) (get filled) (member? key members) := by
  induction members generalizing draft with
  | nil =>
    cases hr
    exact rfl
  | cons member rest ih =>
    obtain ⟨k, v⟩ := member
    obtain ⟨hk, hrest⟩ := List.nodup_cons.mp hn
    rw [readMembers_cons] at hr
    obtain ⟨between, hread, hr⟩ := bind_eq_ok_iff.mp hr
    have ih := ih hrest hr
    rw [member?_cons]
    by_cases he : key = k
    · subst he
      rw [member?_eq_none_iff.mpr hk] at ih
      rw [if_pos rfl, TellsOr, show get filled = get between from ih]
      exact h.own hread
    · rw [if_neg he, ← h.others (Ne.symm he) hread]
      exact ih

theorem length_le_of_readItems {total index : Nat}
    {fields : List (String × (Draft → Json → Except DecodeError Draft))} {items : List Json}
    {draft filled : Draft} (h : shape.readItems total index fields items draft = .ok filled) :
    items.length ≤ fields.length := by
  induction fields generalizing items index draft with
  | nil =>
    cases items with
    | nil => exact Nat.le_refl _
    | cons item items => cases h
  | cons field fields ih =>
    cases items with
    | nil => exact Nat.zero_le _
    | cons item items =>
      obtain ⟨_, _, h⟩ := bind_eq_ok_iff.mp h
      exact Nat.succ_le_succ (ih h)

theorem tellsOr_of_readItems {get : Draft → α} {tells : Json → α → Prop}
    (h : shape.Places key get tells) {total index : Nat}
    {fields : List (String × (Draft → Json → Except DecodeError Draft))} {items : List Json}
    (hn : (fields.map Prod.fst).Nodup)
    (hf : ∀ name read, (name, read) ∈ fields → shape.fields.lookup name = some read)
    {draft filled : Draft} (hr : shape.readItems total index fields items draft = .ok filled) :
    TellsOr tells (get draft) (get filled) items[(fields.map Prod.fst).idxOf key]? := by
  induction fields generalizing items index draft with
  | nil =>
    cases items with
    | nil =>
      cases hr
      exact rfl
    | cons item items => cases hr
  | cons field fields ih =>
    obtain ⟨name, read⟩ := field
    obtain ⟨hname, hrest⟩ := List.nodup_cons.mp hn
    cases items with
    | nil =>
      rw [RecordShape.readItems] at hr
      split at hr
      · cases hr
        exact rfl
      · cases hr
    | cons item items =>
      obtain ⟨between, hread, hr⟩ := bind_eq_ok_iff.mp hr
      have ih := ih hrest (fun _ _ hm => hf _ _ (List.mem_cons_of_mem _ hm)) hr
      rw [← readMember_of_lookup (hf _ _ List.mem_cons_self)] at hread
      rw [List.map_cons]
      by_cases he : name = key
      · -- No later field is the key's, so that no item is left for it.
        subst he
        have hnone : items[(fields.map Prod.fst).idxOf name]? = none := by
          rw [List.idxOf_of_notMem hname, List.length_map]
          exact List.getElem?_eq_none (length_le_of_readItems hr)
        rw [hnone] at ih
        rw [List.idxOf_cons_self, List.getElem?_cons_zero, TellsOr,
          show get filled = get between from ih]
        exact h.own hread
      · rw [List.idxOf_cons_ne _ he, List.getElem?_cons_succ, ← h.others he hread]
        exact ih

/-- Where a record is read from an array, in a place stands what the item at its field's position
tells, or what stood there before. -/
theorem RecordShape.Places.of_read_array {get : Draft → α} {tells : Json → α → Prop}
    (h : shape.Places key get tells) (hn : (shape.fields.map Prod.fst).Nodup) {items : List Json}
    {draft filled : Draft} (hr : shape.read draft (.array items) = .ok filled) :
    TellsOr tells (get draft) (get filled) items[(shape.fields.map Prod.fst).idxOf key]? :=
  tellsOr_of_readItems h hn (fun _ _ => (lookup_eq_some_iff hn).mpr) hr

/-- Members are read if each one is, given that none depends on what has been read before. -/
theorem exists_readMembers
    (hs : ∀ {draft key value filled}, shape.readMember draft key value = .ok filled →
      ∀ draft', ∃ filled', shape.readMember draft' key value = .ok filled') {draft : Draft}
    (hm : ∀ key value, (key, value) ∈ members →
      ∃ filled, shape.readMember draft key value = .ok filled) :
    ∃ filled, shape.readMembers draft members = .ok filled := by
  induction members generalizing draft with
  | nil => exact ⟨draft, rfl⟩
  | cons member rest ih =>
    obtain ⟨k, v⟩ := member
    obtain ⟨between, hread⟩ := hm k v List.mem_cons_self
    obtain ⟨filled, hr⟩ : ∃ filled, shape.readMembers between rest = .ok filled :=
      ih fun key value hmem =>
        (hm key value (List.mem_cons_of_mem _ hmem)).elim fun _ h => hs h between
    exact ⟨filled, by rw [readMembers_cons]; exact bind_eq_ok_iff.mpr ⟨between, hread, hr⟩⟩

/-- The outcome of reading members, told by a property that determines it. -/
theorem readMembers_eq_ok_iff_of
    (hs : ∀ {draft key value filled}, shape.readMember draft key value = .ok filled →
      ∀ draft', ∃ filled', shape.readMember draft' key value = .ok filled')
    {P : Draft → Prop} {draft filled : Draft}
    (hp : ∀ {t}, shape.readMembers draft members = .ok t → P t)
    (hu : ∀ {s t}, P s → P t → s = t)
    (hm : P filled → ∀ key value, (key, value) ∈ members →
      ∃ t, shape.readMember draft key value = .ok t) :
    shape.readMembers draft members = .ok filled ↔ P filled := by
  refine ⟨hp, fun h => ?_⟩
  obtain ⟨t, ht⟩ := exists_readMembers hs (hm h)
  rw [ht, hu (hp ht) h]

/-! ## Single values -/

theorem asBool_eq_ok_iff {value : Json} {b : Bool} : asBool value = .ok b ↔ value = .bool b := by
  cases value <;> simp [asBool]

theorem asString_eq_ok_iff {value : Json} {text : String} :
    asString value = .ok text ↔ value = .string text := by
  cases value <;> simp [asString]

theorem asMembers_eq_ok_iff {value : Json} {members : Members} :
    asMembers value = .ok members ↔ value = .object members := by
  cases value <;> simp [asMembers]

theorem required_eq_ok_iff {name : String} {place : Option α} {a : α} :
    required name place = .ok a ↔ place = some a := by
  cases place <;> simp [required]

/-- A reader that decodes a value and puts it in a draft. -/
theorem decode_eq_ok_iff {decode : Json → Except DecodeError α} {tells : Json → α → Prop}
    (hd : ∀ {value a}, decode value = .ok a ↔ tells value a) {put : α → Draft} {value : Json}
    {filled : Draft} : (do return put (← decode value)) = Except.ok filled ↔
      ∃ a, tells value a ∧ filled = put a := by
  rw [bind_eq_ok_iff]
  simp only [hd, pure, Except.pure, Except.ok.injEq, eq_comm (a := filled)]

end FieldMap.Json
