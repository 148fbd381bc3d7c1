import FieldMap.Serializer.Arguments
import Mathlib.Data.List.Nodup
import Mathlib.Logic.Function.Basic

/-!
# Slots of arguments

Arguments as one slot for each key, which is empty or holds content of the key's own type
(`Arguments.slot`). The slots are all there is to arguments (`Arguments.ext_slot`), every choice of
slots makes arguments (`Arguments.ofSlots`), and a filter empties the slots that are not wanted
(`Arguments.slot_filter`). Keys have different names (`Arguments.Key.name_injective`), so a name is
among those of the present arguments exactly if the slot of its key is filled
(`Arguments.mem_keys_iff`).
-/

namespace FieldMap.Arguments

/-! ## Contents -/

/-- What the argument of a key holds if it is present. -/
def Key.Content : Key → Type
  | .modelField => ModelField
  | .queryset => ManagerRef
  | .viewName | .label | .helpText => String
  | .many | .readOnly | .required | .allowNull | .allowBlank => Bool
  | .maxDigits | .decimalPlaces | .maxLength | .minLength => Nat
  | .style => Style
  | .choices => List (Value × String)
  | .maxValue | .minValue => Binary64
  | .validators => List FieldValidator

/-- The slot of a key. -/
def slot (a : Arguments) : (key : Key) → Option key.Content
  | .modelField => a.modelField
  | .queryset => a.queryset
  | .viewName => a.viewName
  | .many => a.many
  | .label => a.label
  | .helpText => a.helpText
  | .maxDigits => a.maxDigits
  | .decimalPlaces => a.decimalPlaces
  | .style => a.style
  | .readOnly => a.readOnly
  | .required => a.required
  | .allowNull => a.allowNull
  | .allowBlank => a.allowBlank
  | .choices => a.choices
  | .maxLength => a.maxLength
  | .minLength => a.minLength
  | .maxValue => a.maxValue
  | .minValue => a.minValue
  | .validators => a.validators

/-- The arguments with these slots. -/
def ofSlots (slots : (key : Key) → Option key.Content) : Arguments where
  modelField := slots .modelField
  queryset := slots .queryset
  viewName := slots .viewName
  many := slots .many
  label := slots .label
  helpText := slots .helpText
  maxDigits := slots .maxDigits
  decimalPlaces := slots .decimalPlaces
  style := slots .style
  readOnly := slots .readOnly
  required := slots .required
  allowNull := slots .allowNull
  allowBlank := slots .allowBlank
  choices := slots .choices
  maxLength := slots .maxLength
  minLength := slots .minLength
  maxValue := slots .maxValue
  minValue := slots .minValue
  validators := slots .validators

/-- The arguments with another slot for one key. -/
def put (a : Arguments) (key : Key) (content : Option key.Content) : Arguments :=
  ofSlots (Function.update a.slot key content)

variable {a b : Arguments} {key other : Key} {name : String}

theorem slot_ofSlots (slots : (key : Key) → Option key.Content) (key : Key) :
    (ofSlots slots).slot key = slots key := by
  cases key <;> rfl

/-- Arguments with the same slots are the same. -/
theorem ext_slot (h : ∀ key, a.slot key = b.slot key) : a = b := by
  have hslots : ofSlots a.slot = ofSlots b.slot := congrArg ofSlots (funext h)
  exact hslots

theorem slot_put_self (a : Arguments) (key : Key) (content : Option key.Content) :
    (a.put key content).slot key = content := by
  rw [put, slot_ofSlots, Function.update_self]

theorem slot_put_of_ne (a : Arguments) (h : other ≠ key) (content : Option key.Content) :
    (a.put key content).slot other = a.slot other := by
  rw [put, slot_ofSlots, Function.update_of_ne h]

/-- A filter empties the slots that are not wanted. -/
theorem slot_filter (wanted : Key → Bool) (a : Arguments) (key : Key) :
    (a.filter wanted).slot key = if wanted key then a.slot key else none := by
  have hfilter : (a.filter wanted).slot key = (a.slot key).filter fun _ => wanted key := by
    cases key <;> rfl
  rw [hfilter]
  cases a.slot key <;> cases wanted key <;> rfl

theorem has_eq_isSome_slot (a : Arguments) (key : Key) : a.has key = (a.slot key).isSome := by
  cases key <;> rfl

/-! ## Names -/

theorem Key.mem_all (key : Key) : key ∈ Key.all := by
  cases key <;> decide

theorem nodup_allKeys : allKeys.Nodup := by
  decide

/-- Keys have different names. -/
theorem Key.name_injective : Function.Injective Key.name := fun key other h =>
  List.inj_on_of_nodup_map nodup_allKeys key.mem_all other.mem_all h

/-- The present names are those of the filled slots. -/
theorem mem_keys_iff_exists :
    name ∈ a.keys ↔ ∃ key : Key, key.name = name ∧ (a.slot key).isSome = true := by
  rw [keys, List.mem_map]
  refine exists_congr fun key => ?_
  rw [List.mem_filter, and_iff_right key.mem_all, has_eq_isSome_slot, and_comm]

theorem mem_keys_iff : key.name ∈ a.keys ↔ (a.slot key).isSome = true := by
  rw [mem_keys_iff_exists]
  constructor
  · rintro ⟨other, hn, hs⟩
    rwa [← Key.name_injective hn]
  · exact fun hs => ⟨key, rfl, hs⟩

end FieldMap.Arguments
