import FieldMap.Proofs.HeldValues
import FieldMap.Proofs.Members
import FieldMap.Proofs.Slots

/-!
# Documents of arguments

The arguments that are written, listed by hand with their names, are those of the filled slots, in
the order of the keys (`Arguments.toJson_eq`), and each is told by its own slot
(`Arguments.Key.document`). So the names in a document are those of the present arguments, and
another content in one slot changes one member (`Arguments.members_put`). The text that is written
without a document is the text of the document (`Arguments.write_toJson`).
-/

namespace FieldMap

/-! ## Texts of documents -/

namespace Json

theorem writeItems_eq_map (items : List Json) : writeItems items = items.map write := by
  induction items with
  | nil => rfl
  | cons item rest ih => rw [writeItems, ih, List.map_cons]

theorem writeMembers_eq_map (members : Members) :
    writeMembers members = members.map fun member =>
      writeText member.1 ++ ":" ++ member.2.write := by
  induction members with
  | nil => rfl
  | cons member rest ih => rw [writeMembers, ih, List.map_cons]

theorem write_array (items : List Json) : (array items).write = writeList (items.map write) := by
  rw [write, writeItems_eq_map, writeList]

theorem write_object (members : Members) : (object members).write =
    writeObject (members.map fun member => (member.1, member.2.write)) := by
  rw [write, writeMembers_eq_map, writeObject, List.map_map]
  rfl

end Json

theorem Style.write_toJson (s : Style) : s.toJson.write = s.write := by
  rw [toJson, Json.write_object, write, List.map_cons]
  cases s.inputType <;> rfl

/-- A bound is written as it stands in a document, where one that is not finite has no form. -/
theorem write_limitToJson (x : Binary64) : (limitToJson x).write = writeLimit x := by
  rw [limitToJson, writeLimit, apply_ite Json.write]
  congr 1
  cases h : x.isFinite with
  | true => rfl
  | false => simp [Json.write, Json.writeFloat, h]

theorem WrittenArgument.write_toJson (argument : WrittenArgument) :
    argument.toJson.write = argument.write := by
  cases argument with
  | text value => rfl
  | bool value => rfl
  | natural value => rfl
  | limit value => exact write_limitToJson value
  | style value => exact value.write_toJson
  | choices options =>
    rw [toJson, Json.write_array, List.map_map, write]
    refine congrArg writeList (List.map_congr_left fun o _ => ?_)
    exact Json.write_array [o.1.toJson, .string o.2]
  | names values =>
    rw [toJson, Json.write_array, List.map_map, write]
    rfl

namespace Arguments

variable {a : Arguments} {key : Key}

/-- The text of arguments is the text of their document. -/
theorem write_toJson (a : Arguments) : a.toJson.write = a.write := by
  rw [toJson, Json.write_object, write, List.map_map]
  refine congrArg writeObject (List.map_congr_left fun entry _ => ?_)
  exact congrArg (entry.1, ·) entry.2.write_toJson

/-! ## Members -/

/-- The document of an argument of a key. -/
def Key.document : (key : Key) → key.Content → Json
  | .modelField, (f : ModelField) => .string f.name
  | .queryset, (m : ManagerRef) => .string m.display
  | .viewName, s | .label, s | .helpText, s => .string s
  | .many, b | .readOnly, b | .required, b | .allowNull, b | .allowBlank, b => .bool b
  | .maxDigits, (n : Nat) | .decimalPlaces, (n : Nat) | .maxLength, (n : Nat)
  | .minLength, (n : Nat) => .int n
  | .style, (s : Style) => s.toJson
  | .choices, (options : List (Value × String)) =>
    .array (options.map fun o => .array [o.1.toJson, .string o.2])
  | .maxValue, x | .minValue, x => limitToJson x
  | .validators, (vs : List FieldValidator) => .array ((vs.map FieldValidator.name).map .string)

/-- The member that stands for a key, if its slot is filled. -/
def memberOf? (a : Arguments) (key : Key) : Option (String × Json) :=
  (a.slot key).map fun content => (key.name, key.document content)

/-- The members of a document of arguments. -/
def members (a : Arguments) : Members :=
  Key.all.filterMap a.memberOf?

/-- What is listed by hand are the filled slots, in the order of the keys. -/
theorem toJson_eq (a : Arguments) : a.toJson = .object a.members := by
  have hmap (f : String × WrittenArgument → String × Json)
      (slots : List (Option (String × WrittenArgument))) :
      (slots.filterMap id).map f = (slots.map (Option.map f)).filterMap id := by
    rw [List.map_filterMap, List.filterMap_map]
    rfl
  have hmembers : a.members = (Key.all.map a.memberOf?).filterMap id := by
    rw [List.filterMap_map]
    rfl
  rw [toJson, written, hmap, hmembers]
  refine congrArg (fun slots => Json.object (List.filterMap id slots)) ?_
  simp only [List.map_cons, List.map_nil, Option.map_map]
  rfl

theorem map_fst_members (a : Arguments) : a.members.map Prod.fst = a.keys := by
  rw [members, List.map_filterMap, keys, ← List.filterMap_eq_map, List.filterMap_filter]
  refine List.filterMap_congr fun key _ => ?_
  rw [memberOf?, Option.map_map, has_eq_isSome_slot]
  cases a.slot key <;> rfl

theorem sublist_keys (a : Arguments) : a.keys.Sublist allKeys :=
  List.filter_sublist.map Key.name

theorem nodup_members (a : Arguments) : (a.members.map Prod.fst).Nodup := by
  rw [map_fst_members]
  exact a.sublist_keys.nodup nodup_allKeys

theorem mem_members_iff {member : String × Json} :
    member ∈ a.members ↔ ∃ key, a.memberOf? key = some member := by
  rw [members, List.mem_filterMap]
  exact exists_congr fun key => and_iff_right key.mem_all

/-- The member under a name is told by the slot of its key alone. -/
theorem member?_members (a : Arguments) (key : Key) :
    Json.member? key.name a.members = (a.slot key).map key.document := by
  refine Option.ext fun value => ?_
  rw [Json.member?_eq_some_iff a.nodup_members, mem_members_iff, Option.map_eq_some_iff]
  constructor
  · rintro ⟨other, ho⟩
    obtain ⟨content, hc, he⟩ := Option.map_eq_some_iff.mp ho
    obtain ⟨hn, hv⟩ := Prod.mk.inj he
    cases Key.name_injective hn
    exact ⟨content, hc, hv⟩
  · rintro ⟨content, hc, rfl⟩
    exact ⟨key, by rw [memberOf?, hc, Option.map_some]⟩

/-- Another content in a filled slot changes the member of its key alone. -/
theorem members_put (key : Key) (content : key.Content) (h : (a.slot key).isSome = true) :
    (a.put key (some content)).members = a.members.map fun member =>
      if member.1 = key.name then (member.1, key.document content) else member := by
  rw [members, members, List.map_filterMap]
  refine List.filterMap_congr fun other _ => ?_
  rw [memberOf?, memberOf?, Option.map_map]
  by_cases hk : other = key
  · subst hk
    obtain ⟨old, hold⟩ := Option.isSome_iff_exists.mp h
    rw [slot_put_self, hold]
    simp
  · have hn : other.name ≠ key.name := fun hn => hk (Key.name_injective hn)
    rw [slot_put_of_ne a hk]
    simp [hn, Function.comp_def]

/-- A document of arguments has the names of the present arguments, in their order among all keys,
and everything else that tells which arguments are present agrees. The text of the arguments is the
text of the document. Each member is told by the slot of its key alone, where a value, a style and a
bound on values are what stands for them in documents. So another content in a filled slot changes
no other member. -/
theorem toJson_byKeys (a : Arguments) : (∃ members : Members,
    a.toJson = .object members ∧ members.map Prod.fst = a.keys ∧ a.toJson.write = a.write ∧
    a.keys.Sublist allKeys ∧
    (∀ key : Key, key.name ∈ a.keys ↔ (a.slot key).isSome = true) ∧
    a.size = a.keys.length ∧ (a.isEmpty = true ↔ a.keys = []) ∧
    (∀ name, a.contains name = true ↔ name ∈ a.keys) ∧
    (∀ key : Key, Json.member? key.name members = (a.slot key).map key.document) ∧
    ∀ (key : Key) (content : key.Content), (a.slot key).isSome = true →
      (a.put key (some content)).toJson = .object (members.map fun member =>
        if member.1 = key.name then (member.1, key.document content) else member)) ∧
    (∀ (value : Value) document, value.HeldAs document ↔ document = value.toJson) ∧
    (∀ (s : Style) document, s.HeldAs document ↔ document = s.toJson) ∧
    ∀ x document, LimitHeldAs x document ↔ document = limitToJson x := by
  refine ⟨⟨a.members, a.toJson_eq, a.map_fst_members, a.write_toJson, a.sublist_keys,
    fun _ => mem_keys_iff, rfl, List.isEmpty_iff, fun _ => List.contains_iff_mem,
    a.member?_members, fun key content h => ?_⟩, fun _ _ => Value.heldAs_iff,
    fun _ _ => Style.heldAs_iff, fun _ _ => limitHeldAs_iff⟩
  rw [toJson_eq, members_put key content h]

/-- A style that has no type of input does not speak of it. -/
example : ({ style := some ⟨"textarea.html", none⟩, required := some false } : Arguments).write =
    "\x7b\"style\":\x7b\"base_template\":\"textarea.html\"\x7d,\"required\":false\x7d" := by
  cbv

end Arguments

end FieldMap
