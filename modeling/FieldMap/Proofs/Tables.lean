import FieldMap.Proofs.Reading
import FieldMap.Toml.Parser

/-!
# No key twice in TOML tables

A TOML value has no key twice in any of its tables if its image in JSON has none in any of its
objects (`Value.DistinctKeys`), since the image has the same keys in another order
(`distinctKeys_table_iff`). No change of a table under construction brings a key in twice, whatever
table it is that a path leads to (`DistinctEntries.modifyAt`), and neither do the readers of values
(`takesDistinctKeys`) and the moments that stand in tables (`Value.DistinctKeys.resolveMoments`).
Hence the document that a text holds has no key twice (`Toml.distinctKeys_of_parse?`). It is a table
or, where that stands for a moment, a text (`Toml.table_or_moment_of_parse?`).
-/

namespace FieldMap.Toml

/-! ## Values -/

theorem perm_insertByKey (key : String) (value : Json) (members : Members) :
    (insertByKey key value members).Perm ((key, value) :: members) := by
  induction members with
  | nil => exact .refl _
  | cons member rest ih =>
    rw [insertByKey]
    split
    · exact .refl _
    · exact (ih.cons _).trans (.swap ..)

theorem perm_entriesToJson (entries : List (String × Value)) :
    (entriesToJson entries).Perm (entries.map fun (key, value) => (key, value.toJson)) := by
  induction entries with
  | nil =>
    rw [entriesToJson]
    exact .refl _
  | cons entry rest ih =>
    rw [entriesToJson]
    exact (perm_insertByKey ..).trans (ih.cons _)

theorem itemsToJson_eq_map (items : List Value) : itemsToJson items = items.map Value.toJson := by
  induction items with
  | nil => rw [itemsToJson, List.map_nil]
  | cons item rest ih => rw [itemsToJson, ih, List.map_cons]

/-- No table in a value has a key twice. -/
def Value.DistinctKeys (value : Value) : Prop :=
  value.toJson.DistinctKeys

theorem distinctKeys_float (value : Binary64) : (Value.float value).DistinctKeys := by
  rw [Value.DistinctKeys, Value.toJson]
  split <;> trivial

theorem distinctKeys_array_iff {items : List Value} :
    (Value.array items).DistinctKeys ↔ ∀ item ∈ items, item.DistinctKeys := by
  rw [Value.DistinctKeys, Value.toJson, itemsToJson_eq_map, Json.distinctKeys_array_iff]
  exact List.forall_mem_map

theorem distinctKeys_table_iff {entries : List (String × Value)} :
    (Value.table entries).DistinctKeys ↔
      (entries.map Prod.fst).Nodup ∧ ∀ key value, (key, value) ∈ entries → value.DistinctKeys := by
  have hp := perm_entriesToJson entries
  rw [Value.DistinctKeys, Value.toJson, Json.distinctKeys_object_iff, (hp.map Prod.fst).nodup_iff,
    List.map_map]
  refine and_congr_right' ⟨fun h key value hm => ?_, fun h key value hm => ?_⟩
  · exact h key value.toJson (hp.mem_iff.mpr (List.mem_map_of_mem hm))
  · obtain ⟨⟨k, v⟩, hv, he⟩ := List.mem_map.mp (hp.mem_iff.mp hm)
    cases he
    exact h _ _ hv

/-! ## Words -/

theorem distinctKeys_of_integer? {negative : Bool} {n : Nat} {value : Value}
    (h : integer? negative n = some value) : value.DistinctKeys := by
  unfold integer? at h
  split at h <;> split at h <;> cases h <;> trivial

theorem distinctKeys_of_float? {negative : Bool} {text : List Char} {value : Value}
    (h : float? negative text = some value) : value.DistinctKeys := by
  have hend {p : Prop} [Decidable p] {number : Binary64}
      (h : ((guard p : Option Unit).bind fun _ => some (Value.float number)) = some value) :
      value.DistinctKeys := by
    obtain ⟨-, -, h⟩ := Option.bind_eq_some_iff.mp h
    cases h
    exact distinctKeys_float number
  simp only [float?, Option.bind_eq_bind, Option.pure_def, Option.bind_some] at h
  obtain ⟨whole, -, h⟩ := Option.bind_eq_some_iff.mp h
  split at h
  · obtain ⟨fraction, -, h⟩ := Option.bind_eq_some_iff.mp h
    split at h
    · exact hend h
    · obtain ⟨-, -, h⟩ := Option.bind_eq_some_iff.mp h
      obtain ⟨power, -, h⟩ := Option.bind_eq_some_iff.mp h
      exact hend h
  · split at h
    · exact hend h
    · obtain ⟨-, -, h⟩ := Option.bind_eq_some_iff.mp h
      obtain ⟨power, -, h⟩ := Option.bind_eq_some_iff.mp h
      exact hend h

theorem distinctKeys_of_decimal? {word : List Char} {value : Value}
    (h : decimal? word = some value) : value.DistinctKeys := by
  simp only [decimal?] at h
  split at h
  · cases h
    exact distinctKeys_float _
  · split at h
    · cases h
      exact distinctKeys_float _
    · split at h
      · exact distinctKeys_of_float? h
      · obtain ⟨digits, -, h⟩ := Option.bind_eq_some_iff.mp h
        exact distinctKeys_of_integer? h

theorem distinctKeys_of_digitsIn? {base : Nat} {text : List Char} {value : Value}
    (h : digitsIn? base text = some value) : value.DistinctKeys := by
  obtain ⟨digits, -, h⟩ := Option.bind_eq_some_iff.mp h
  exact distinctKeys_of_integer? h

theorem distinctKeys_of_word? {word : List Char} {value : Value} (h : word? word = some value) :
    value.DistinctKeys := by
  unfold word? at h
  split at h
  · cases h
    trivial
  · cases h
    trivial
  · exact distinctKeys_of_digitsIn? h
  · exact distinctKeys_of_digitsIn? h
  · exact distinctKeys_of_digitsIn? h
  · split at h
    · cases h
      trivial
    · exact distinctKeys_of_decimal? h

theorem distinctKeys_of_takeWord? {text rest : List Char} {value : Value}
    (h : takeWord? text = some (value, rest)) : value.DistinctKeys := by
  simp only [takeWord?] at h
  split at h
  all_goals
    obtain ⟨word, hw, he⟩ := Option.map_eq_some_iff.mp h
    cases he
    exact distinctKeys_of_word? hw

/-! ## Tables under construction -/

theorem entriesToValues_eq_map (entries : Entries) :
    entriesToValues entries = entries.map fun (key, node) => (key, node.toValue) := by
  induction entries with
  | nil => rw [entriesToValues, List.map_nil]
  | cons entry rest ih => rw [entriesToValues, ih, List.map_cons]

theorem elementsToValues_eq_map (elements : List Entries) :
    elementsToValues elements =
      elements.map fun entries => .table (entriesToValues entries) := by
  induction elements with
  | nil => rw [elementsToValues, List.map_nil]
  | cons element rest ih => rw [elementsToValues, ih, List.map_cons]

/-- No table in a node has a key twice. -/
def Node.DistinctKeys (node : Node) : Prop :=
  node.toValue.DistinctKeys

/-- Entries are those of a table in which no table has a key twice. -/
def DistinctEntries (entries : Entries) : Prop :=
  (Value.table (entriesToValues entries)).DistinctKeys

variable {entries entries' : Entries} {key : String} {node : Node}

theorem distinctKeys_leaf_iff {value : Value} :
    (Node.leaf value).DistinctKeys ↔ value.DistinctKeys := by
  rw [Node.DistinctKeys, Node.toValue]

theorem distinctKeys_tableNode_iff {origin : Origin} :
    (Node.table origin entries).DistinctKeys ↔ DistinctEntries entries := by
  rw [Node.DistinctKeys, Node.toValue, DistinctEntries]

theorem distinctKeys_tables_iff {elements : List Entries} :
    (Node.tables elements).DistinctKeys ↔ ∀ entries ∈ elements, DistinctEntries entries := by
  rw [Node.DistinctKeys, Node.toValue, elementsToValues_eq_map, distinctKeys_array_iff]
  exact List.forall_mem_map

theorem distinctKeys_tables_concat_iff {elements : List Entries} :
    (Node.tables (elements ++ [entries])).DistinctKeys ↔
      (∀ element ∈ elements, DistinctEntries element) ∧ DistinctEntries entries := by
  rw [distinctKeys_tables_iff, List.forall_mem_append, List.forall_mem_singleton]

theorem distinctEntries_iff : DistinctEntries entries ↔
    (entries.map Prod.fst).Nodup ∧ ∀ key node, (key, node) ∈ entries → node.DistinctKeys := by
  rw [DistinctEntries, distinctKeys_table_iff, entriesToValues_eq_map, List.map_map]
  refine and_congr_right' ⟨fun h key node hm => ?_, fun h key value hm => ?_⟩
  · exact h key node.toValue (List.mem_map_of_mem hm)
  · obtain ⟨⟨k, n⟩, hn, he⟩ := List.mem_map.mp hm
    cases he
    exact h _ _ hn

theorem distinctEntries_nil : DistinctEntries [] :=
  distinctEntries_iff.mpr ⟨List.nodup_nil, nofun⟩

theorem DistinctEntries.of_lookup (h : DistinctEntries entries)
    (hk : entries.lookup key = some node) : node.DistinctKeys :=
  (distinctEntries_iff.mp h).2 key node (mem_of_lookup hk)

theorem putEntry_eq_putEntry :
    putEntry key node entries = ClassTable.putEntry key node entries := by
  induction entries with
  | nil => rfl
  | cons entry rest ih => rw [putEntry, ClassTable.putEntry, ih]

theorem DistinctEntries.putEntry (h : DistinctEntries entries) (hn : node.DistinctKeys)
    (key : String) : DistinctEntries (putEntry key node entries) := by
  rw [putEntry_eq_putEntry]
  obtain ⟨hkeys, hnodes⟩ := distinctEntries_iff.mp h
  exact distinctEntries_iff.mpr ⟨ClassTable.nodup_putEntry key node hkeys, fun k n hm =>
    (ClassTable.mem_putEntry hm).elim (fun e => e ▸ hn) (hnodes k n)⟩

/-- A key that is taken out comes in anew after its siblings. -/
theorem DistinctEntries.filter_append (h : DistinctEntries entries) (hn : node.DistinctKeys)
    (key : String) : DistinctEntries (entries.filter (·.1 ≠ key) ++ [(key, node)]) := by
  obtain ⟨hkeys, hnodes⟩ := distinctEntries_iff.mp h
  refine distinctEntries_iff.mpr ⟨?_, fun k n hm => ?_⟩
  · rw [List.map_append, List.map_singleton]
    refine List.nodup_append.mpr ⟨(List.filter_sublist.map Prod.fst).nodup hkeys,
      List.nodup_singleton key, fun a ha b hb e => ?_⟩
    obtain ⟨entry, he, rfl⟩ := List.mem_map.mp ha
    have hne := (List.mem_filter.mp he).2
    exact of_decide_eq_true hne (e.trans (List.mem_singleton.mp hb))
  · rcases List.mem_append.mp hm with hm | hm
    · exact hnodes k n (List.mem_of_mem_filter hm)
    · cases List.mem_singleton.mp hm
      exact hn

/-- A change that brings no key in twice brings none in twice at the end of a path. -/
theorem DistinctEntries.modifyAt {made : Origin} {change : Origin → Entries → Option Entries}
    (hchange : ∀ {origin entries entries'}, DistinctEntries entries →
      change origin entries = some entries' → DistinctEntries entries')
    {path : List String} {origin : Origin} (h : DistinctEntries entries)
    (hc : modifyAt? made change path origin entries = some entries') :
    DistinctEntries entries' := by
  induction path generalizing origin entries entries' with
  | nil => exact hchange h hc
  | cons key path ih =>
    rw [modifyAt?] at hc
    -- The key leads to nothing, to a finished value, to a table, or to a table array.
    split at hc
    · obtain ⟨inner, hi, hc⟩ := Option.bind_eq_some_iff.mp hc
      cases hc
      exact h.putEntry (distinctKeys_tableNode_iff.mpr (ih distinctEntries_nil hi)) key
    · cases hc
    · rename_i origin inner hk
      obtain ⟨-, -, hc⟩ := Option.bind_eq_some_iff.mp hc
      obtain ⟨inner', hi, hc⟩ := Option.bind_eq_some_iff.mp hc
      cases hc
      have hinner := distinctKeys_tableNode_iff.mp (h.of_lookup hk)
      exact h.putEntry (distinctKeys_tableNode_iff.mpr (ih hinner hi)) key
    · rename_i elements hk
      obtain ⟨last, hl, hc⟩ := Option.bind_eq_some_iff.mp hc
      obtain ⟨last', hi, hc⟩ := Option.bind_eq_some_iff.mp hc
      cases hc
      have hall := distinctKeys_tables_iff.mp (h.of_lookup hk)
      have hlast := ih (hall last (List.mem_of_getLast? hl)) hi
      have hothers := fun element he => hall element ((List.dropLast_sublist elements).subset he)
      exact h.putEntry (distinctKeys_tables_concat_iff.mpr ⟨hothers, hlast⟩) key

/-- The value of an assignment has no key twice. -/
def Assignment.DistinctKeys (a : Assignment) : Prop :=
  a.value.DistinctKeys

theorem DistinctEntries.insertAt {path : List String} {value : Value} (h : DistinctEntries entries)
    (hv : value.DistinctKeys) (hi : insertAt? path key value entries = some entries') :
    DistinctEntries entries' := by
  refine h.modifyAt (fun h hc => ?_) hi
  obtain ⟨-, -, hc⟩ := Option.bind_eq_some_iff.mp hc
  obtain ⟨-, -, hc⟩ := Option.bind_eq_some_iff.mp hc
  cases hc
  exact h.putEntry (distinctKeys_leaf_iff.mpr hv) _

theorem DistinctEntries.insertAll {assignments : List Assignment} (h : DistinctEntries entries)
    (ha : ∀ a ∈ assignments, a.DistinctKeys)
    (hi : insertAll? assignments entries = some entries') : DistinctEntries entries' :=
  foldlM_keeps DistinctEntries.insertAt h ha hi

/-- No value in a section has a key twice. -/
def Section.DistinctKeys (part : Section) : Prop :=
  ∀ a ∈ part.body, a.DistinctKeys

theorem DistinctEntries.addSection {part : Section} (h : DistinctEntries entries)
    (hp : part.DistinctKeys) (hs : addSection? entries part = some entries') :
    DistinctEntries entries' := by
  unfold addSection? at hs
  -- The document itself, a table that is new or has been made by headers inside it, or an element.
  split at hs
  · exact h.insertAll hp hs
  · refine h.modifyAt (fun h hc => ?_) hs
    split at hc
    · obtain ⟨inner, hi, hc⟩ := Option.bind_eq_some_iff.mp hc
      cases hc
      exact h.putEntry (distinctKeys_tableNode_iff.mpr (distinctEntries_nil.insertAll hp hi)) _
    · rename_i hk
      obtain ⟨inner, hi, hc⟩ := Option.bind_eq_some_iff.mp hc
      cases hc
      have hinner := distinctKeys_tableNode_iff.mp (h.of_lookup hk)
      exact h.filter_append (distinctKeys_tableNode_iff.mpr (hinner.insertAll hp hi)) _
    · cases hc
  · refine h.modifyAt (fun h hc => ?_) hs
    split at hc
    · obtain ⟨inner, hi, hc⟩ := Option.bind_eq_some_iff.mp hc
      cases hc
      have hnew := distinctEntries_nil.insertAll hp hi
      exact h.putEntry (distinctKeys_tables_iff.mpr (List.forall_mem_singleton.mpr hnew)) _
    · rename_i elements hk
      obtain ⟨inner, hi, hc⟩ := Option.bind_eq_some_iff.mp hc
      cases hc
      have hall := distinctKeys_tables_iff.mp (h.of_lookup hk)
      have hnew := distinctEntries_nil.insertAll hp hi
      exact h.putEntry (distinctKeys_tables_concat_iff.mpr ⟨hall, hnew⟩) _
    · cases hc

theorem distinctKeys_of_tableOf? {sections : List Section} {value : Value}
    (hs : ∀ part ∈ sections, part.DistinctKeys) (h : tableOf? sections = some value) :
    value.DistinctKeys := by
  obtain ⟨root, hr, h⟩ := Option.bind_eq_some_iff.mp h
  cases h
  exact foldlM_keeps DistinctEntries.addSection distinctEntries_nil hs hr

theorem distinctKeys_of_inlineTable? {assignments : List Assignment} {value : Value}
    (ha : ∀ a ∈ assignments, a.DistinctKeys) (h : inlineTable? assignments = some value) :
    value.DistinctKeys := by
  obtain ⟨entries, he, h⟩ := Option.bind_eq_some_iff.mp h
  cases h
  exact distinctEntries_nil.insertAll ha he

/-! ## The reader -/

/-- With some fuel the three readers of values take nothing that has a key twice. -/
structure TakesDistinctKeys (fuel : Nat) : Prop where
  value : ∀ {depth text value rest}, takeValue? fuel depth text = some (value, rest) →
    value.DistinctKeys
  items : ∀ {depth text items rest}, takeItems? fuel depth text = some (items, rest) →
    ∀ item ∈ items, item.DistinctKeys
  assignments : ∀ {depth text assignments rest},
    takeAssignments? fuel depth text = some (assignments, rest) → ∀ a ∈ assignments, a.DistinctKeys

variable {fuel depth : Nat} {text rest : List Char}

theorem distinctKeys_of_string? {found? : Option (String × List Char)} {value : Value}
    (h : (found?.map fun found => (Value.string found.1, found.2)) = some (value, rest)) :
    value.DistinctKeys := by
  obtain ⟨found, -, he⟩ := Option.map_eq_some_iff.mp h
  cases he
  trivial

theorem distinctKeys_of_takeValue?_succ (ih : TakesDistinctKeys fuel) {value : Value}
    (h : takeValue? (fuel + 1) depth text = some (value, rest)) : value.DistinctKeys := by
  -- Four kinds of texts, an array, an inline table, or a word.
  rw [takeValue?.eq_def] at h
  simp only at h
  split at h
  · exact distinctKeys_of_string? h
  · exact distinctKeys_of_string? h
  · exact distinctKeys_of_string? h
  · exact distinctKeys_of_string? h
  · split at h
    · cases h
    · obtain ⟨⟨items, after⟩, hi, he⟩ := Option.map_eq_some_iff.mp h
      cases he
      exact distinctKeys_array_iff.mpr (ih.items hi)
  · split at h
    · cases h
    · split at h
      · cases h
        exact distinctEntries_nil
      · obtain ⟨⟨assignments, after⟩, ha, h⟩ := Option.bind_eq_some_iff.mp h
        obtain ⟨table, ht, h⟩ := Option.bind_eq_some_iff.mp h
        cases h
        exact distinctKeys_of_inlineTable? (ih.assignments ha) ht
  · exact distinctKeys_of_takeWord? h

theorem distinctKeys_of_takeItems?_succ (ih : TakesDistinctKeys fuel) {items : List Value}
    (h : takeItems? (fuel + 1) depth text = some (items, rest)) :
    ∀ item ∈ items, item.DistinctKeys := by
  rw [takeItems?] at h
  split at h
  · cases h
    exact List.forall_mem_nil _
  · obtain ⟨⟨item, after⟩, hv, h⟩ := Option.bind_eq_some_iff.mp h
    simp only at h
    -- The array ends after this item or goes on.
    split at h
    · cases h
      exact List.forall_mem_singleton.mpr (ih.value hv)
    · obtain ⟨⟨others, after⟩, hi, h⟩ := Option.bind_eq_some_iff.mp h
      cases h
      exact List.forall_mem_cons.mpr ⟨ih.value hv, ih.items hi⟩
    · cases h

theorem distinctKeys_of_takeAssignments?_succ (ih : TakesDistinctKeys fuel)
    {assignments : List Assignment}
    (h : takeAssignments? (fuel + 1) depth text = some (assignments, rest)) :
    ∀ a ∈ assignments, a.DistinctKeys := by
  rw [takeAssignments?] at h
  obtain ⟨⟨parts, after⟩, -, h⟩ := Option.bind_eq_some_iff.mp h
  simp only at h
  obtain ⟨⟨path, key⟩, -, h⟩ := Option.bind_eq_some_iff.mp h
  simp only at h
  split at h
  · obtain ⟨⟨value, after⟩, hv, h⟩ := Option.bind_eq_some_iff.mp h
    simp only at h
    -- The table ends after this entry or goes on.
    split at h
    · cases h
      exact List.forall_mem_singleton.mpr (ih.value hv)
    · obtain ⟨⟨others, after⟩, ha, h⟩ := Option.bind_eq_some_iff.mp h
      cases h
      exact List.forall_mem_cons.mpr ⟨ih.value hv, ih.assignments ha⟩
    · cases h
  · cases h

theorem takesDistinctKeys (fuel : Nat) : TakesDistinctKeys fuel := by
  induction fuel with
  | zero =>
    refine ⟨fun h => ?_, fun h => ?_, fun h => ?_⟩
    · rw [takeValue?] at h
      cases h
    · rw [takeItems?] at h
      cases h
    · rw [takeAssignments?] at h
      cases h
  | succ fuel ih =>
    exact ⟨distinctKeys_of_takeValue?_succ ih, distinctKeys_of_takeItems?_succ ih,
      distinctKeys_of_takeAssignments?_succ ih⟩

theorem distinctKeys_of_takeAssignment? {a : Assignment}
    (h : takeAssignment? text = some (a, rest)) : a.DistinctKeys := by
  obtain ⟨⟨parts, rest⟩, -, h⟩ := Option.bind_eq_some_iff.mp h
  obtain ⟨⟨path, key⟩, -, h⟩ := Option.bind_eq_some_iff.mp h
  simp only at h
  split at h
  · obtain ⟨⟨value, rest⟩, hv, h⟩ := Option.bind_eq_some_iff.mp h
    obtain ⟨after, -, h⟩ := Option.bind_eq_some_iff.mp h
    cases h
    exact (takesDistinctKeys _).value hv
  · cases h

theorem distinctKeys_of_sections? {header : Header} {body : List Assignment} {fuel : Nat}
    {text : List Char} {sections : List Section} (hb : ∀ a ∈ body, a.DistinctKeys)
    (h : sections? header body fuel text = some sections) :
    ∀ part ∈ sections, part.DistinctKeys := by
  have hbody : Section.DistinctKeys ⟨header, body.reverse⟩ := fun a ha =>
    hb a (List.mem_reverse.mp ha)
  induction fuel generalizing header body text sections with
  | zero =>
    rw [sections?] at h
    cases h
  | succ fuel ih =>
    rw [sections?] at h
    split at h
    · cases h
      exact List.forall_mem_singleton.mpr hbody
    · obtain ⟨⟨next, rest⟩, -, h⟩ := Option.bind_eq_some_iff.mp h
      obtain ⟨others, ho, h⟩ := Option.bind_eq_some_iff.mp h
      cases h
      exact List.forall_mem_cons.mpr ⟨hbody, ih (List.forall_mem_nil _) ho (List.forall_mem_nil _)⟩
    · obtain ⟨⟨assignment, rest⟩, ha, h⟩ := Option.bind_eq_some_iff.mp h
      have hall : ∀ a ∈ assignment :: body, a.DistinctKeys :=
        List.forall_mem_cons.mpr ⟨distinctKeys_of_takeAssignment? ha, hb⟩
      exact ih hall h fun a ha => hall a (List.mem_reverse.mp ha)

/-! ## Documents -/

mutual

theorem Value.DistinctKeys.resolveMoments {value resolved : Value} (h : value.DistinctKeys)
    (hr : value.resolveMoments? = some resolved) : resolved.DistinctKeys := by
  match value with
  | .array items =>
    rw [Value.resolveMoments?] at hr
    obtain ⟨items', hi, he⟩ := Option.map_eq_some_iff.mp hr
    cases he
    have hall := distinctKeys_array_iff.mp h
    exact distinctKeys_array_iff.mpr (distinctKeys_of_resolveItems? hall hi)
  | .table entries =>
    rw [Value.resolveMoments?] at hr
    split at hr
    · obtain ⟨entries', he', he⟩ := Option.map_eq_some_iff.mp hr
      cases he
      obtain ⟨hkeys, hvalues⟩ := distinctKeys_table_iff.mp h
      obtain ⟨hkeys', hvalues'⟩ := distinctKeys_of_resolveEntries? hvalues he'
      exact distinctKeys_table_iff.mpr ⟨hkeys' ▸ hkeys, hvalues'⟩
    · obtain ⟨text, -, he⟩ := Option.map_eq_some_iff.mp hr
      cases he
      trivial
    · cases hr
  | .string _ | .int _ | .float _ | .bool _ | .moment _ =>
    rw [Value.resolveMoments?] at hr
    · cases hr
      exact h
    all_goals exact nofun

theorem distinctKeys_of_resolveItems? {items resolved : List Value}
    (h : ∀ item ∈ items, item.DistinctKeys) (hr : resolveItems? items = some resolved) :
    ∀ item ∈ resolved, item.DistinctKeys := by
  match items with
  | [] =>
    rw [resolveItems?] at hr
    cases hr
    exact nofun
  | item :: rest =>
    rw [resolveItems?] at hr
    obtain ⟨item', hi, hr⟩ := Option.bind_eq_some_iff.mp hr
    obtain ⟨rest', hrest, hr⟩ := Option.bind_eq_some_iff.mp hr
    cases hr
    obtain ⟨hitem, hothers⟩ := List.forall_mem_cons.mp h
    exact List.forall_mem_cons.mpr
      ⟨hitem.resolveMoments hi, distinctKeys_of_resolveItems? hothers hrest⟩

theorem distinctKeys_of_resolveEntries? {entries resolved : List (String × Value)}
    (h : ∀ key value, (key, value) ∈ entries → value.DistinctKeys)
    (hr : resolveEntries? entries = some resolved) :
    resolved.map Prod.fst = entries.map Prod.fst ∧
      ∀ key value, (key, value) ∈ resolved → value.DistinctKeys := by
  match entries with
  | [] =>
    rw [resolveEntries?] at hr
    cases hr
    exact ⟨rfl, nofun⟩
  | (key, value) :: rest =>
    rw [resolveEntries?] at hr
    obtain ⟨value', hv, hr⟩ := Option.bind_eq_some_iff.mp hr
    obtain ⟨rest', hrest, hr⟩ := Option.bind_eq_some_iff.mp hr
    cases hr
    have hvalue := h key value List.mem_cons_self
    obtain ⟨hkeys, hvalues⟩ := distinctKeys_of_resolveEntries?
      (fun k v hm => h k v (List.mem_cons_of_mem _ hm)) hrest
    refine ⟨by rw [List.map_cons, hkeys, List.map_cons], fun k v hm => ?_⟩
    rcases List.mem_cons.mp hm with he | hm
    · cases he
      exact hvalue.resolveMoments hv
    · exact hvalues k v hm

end

/-- No table in the value that a text describes has a key twice. -/
theorem distinctKeys_of_parse? {text : String} {value : Value} (h : parse? text = some value) :
    value.DistinctKeys := by
  obtain ⟨table, ht, h⟩ := Option.bind_eq_some_iff.mp h
  obtain ⟨sections, hs, ht⟩ := Option.bind_eq_some_iff.mp ht
  have hall := distinctKeys_of_sections? (List.forall_mem_nil _) hs
  exact (distinctKeys_of_tableOf? hall ht).resolveMoments h

/-- What a text describes is a table, unless that table stands for a moment. -/
theorem table_or_moment_of_parse? {text : String} {value : Value} (h : parse? text = some value) :
    (∃ entries, value = .table entries) ∨ ∃ moment, value = .moment moment := by
  obtain ⟨table, ht, h⟩ := Option.bind_eq_some_iff.mp h
  obtain ⟨sections, -, ht⟩ := Option.bind_eq_some_iff.mp ht
  obtain ⟨root, -, ht⟩ := Option.bind_eq_some_iff.mp ht
  cases ht
  rw [Value.resolveMoments?] at h
  split at h
  · obtain ⟨entries, -, rfl⟩ := Option.map_eq_some_iff.mp h
    exact .inl ⟨entries, rfl⟩
  · obtain ⟨moment, -, rfl⟩ := Option.map_eq_some_iff.mp h
    exact .inr ⟨moment, rfl⟩
  · cases h

end FieldMap.Toml
