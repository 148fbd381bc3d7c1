import FieldMap.Json.Basic

/-!
# TOML values

`Toml.Value` is what a TOML document holds, and `Value.toJson` its image in JSON: members sorted by
key, dates and times as texts, and numbers that are not finite as `null`.
-/

namespace FieldMap.Toml

/-- A TOML value; dates and times are held in their normal written form. -/
inductive Value where
  | string (value : String)
  | int (value : Int)
  | float (value : Binary64)
  | bool (value : Bool)
  | moment (text : String)
  | array (items : List Value)
  | table (entries : List (String × Value))

/-- Inserts a member before the first one with a greater key. -/
def insertByKey (key : String) (value : Json) : Members → Members
  | [] => [(key, value)]
  | (k, v) :: rest =>
    if key < k then (key, value) :: (k, v) :: rest else (k, v) :: insertByKey key value rest

mutual

/-- The image of a value in JSON. -/
def Value.toJson : Value → Json
  | .string value => .string value
  | .int value => .int value
  | .float value => if value.isFinite then .float value else .null
  | .bool value => .bool value
  | .moment text => .string text
  | .array items => .array (itemsToJson items)
  | .table entries => .object (entriesToJson entries)

/-- The images of an array's items. -/
def itemsToJson : List Value → List Json
  | [] => []
  | item :: rest => item.toJson :: itemsToJson rest

/-- The images of a table's entries, sorted by key. -/
def entriesToJson : List (String × Value) → Members
  | [] => []
  | (key, value) :: rest => insertByKey key value.toJson (entriesToJson rest)

end

end FieldMap.Toml
