import FieldMap.Calendar
import FieldMap.Json.Printer
import FieldMap.Uuid

/-!
# Values of fields

What a field may hold: defaults, choices, and the values that validators check. `Value.display` is
a value as messages show it, `Value.toJson` as documents hold it, and `Value.same` is equality,
which never holds between values of two kinds.
-/

namespace FieldMap

/-- The value of a field. -/
inductive Value where
  | null
  | bool (value : Bool)
  | int (value : Int)
  | float (value : Binary64)
  | string (value : String)
  | date (date : Date)
  | dateTime (date : Date) (time : TimeOfDay)
  | time (time : TimeOfDay)
  | uuid (id : Uuid)
  | json (document : Json)
  | list (items : List Value)

namespace Value

mutual

/-- A value as messages show it. -/
def display : Value → String
  | .null => "NULL"
  | .bool value => if value then "true" else "false"
  | .int value => toString value
  | .float value => value.display
  | .string value => value
  | .date d => d.display
  | .dateTime d t => d.display ++ " " ++ t.display
  | .time t => t.display
  | .uuid id => id.display
  | .json document => document.write
  | .list items => "[" ++ ", ".intercalate (displayItems items) ++ "]"

/-- A list's items as messages show them. -/
def displayItems : List Value → List String
  | [] => []
  | item :: rest => display item :: displayItems rest

end

mutual

/-- A value as documents hold it: dates, times and identifiers are texts there, and a number that
is not finite is `null`. -/
def toJson : Value → Json
  | .null => .null
  | .bool value => .bool value
  | .int value => .int value
  | .float value => if value.isFinite then .float value else .null
  | .string value => .string value
  | .date d => .string d.display
  | .dateTime d t => .string (d.display ++ " " ++ t.display)
  | .time t => .string t.display
  | .uuid id => .string id.display
  | .json document => document
  | .list items => .array (itemsToJson items)

/-- A list's items as documents hold them. -/
def itemsToJson : List Value → List Json
  | [] => []
  | item :: rest => toJson item :: itemsToJson rest

end

mutual

/-- Whether two values are equal; numbers are compared as numbers of their kind. -/
def same : Value → Value → Bool
  | .null, .null => true
  | .bool a, .bool b => a == b
  | .int a, .int b => a == b
  | .float a, .float b => a == b
  | .string a, .string b => a == b
  | .date a, .date b => a == b
  | .dateTime a s, .dateTime b t => a == b && s == t
  | .time a, .time b => a == b
  | .uuid a, .uuid b => a == b
  | .json a, .json b => a == b
  | .list a, .list b => sameItems a b
  | _, _ => false

/-- Whether two lists of values are equal item by item. -/
def sameItems : List Value → List Value → Bool
  | [], [] => true
  | a :: as, b :: bs => same a b && sameItems as bs
  | _, _ => false

end

instance : BEq Value where
  beq := same

/-- The number that an integer or a floating-point value is nearest to. -/
def asNumber : Value → Option Binary64
  | .int value => some (.ofInt value)
  | .float value => some value
  | _ => none

/-- The text of a text value. -/
def asText : Value → Option String
  | .string value => some value
  | _ => none

end Value

end FieldMap
