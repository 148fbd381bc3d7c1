import FieldMap.Toml.Moment
import FieldMap.Toml.Value

/-!
# Tables that stand for moments

A table whose first key is `momentKey` is another spelling of a date or time: the moment is written
as a text under that key, and the table's other entries do not count. `Value.resolveMoments?` puts
the moments in the places of such tables.
-/

namespace FieldMap.Toml

/-- The key that makes a table a moment. -/
def momentKey : String :=
  "$__toml_private_datetime"

/-- The value under `momentKey` if that is the first key of a table. -/
def underMomentKey? : List (String × Value) → Option Value
  | [] => none
  | (key, value) :: _ => if key = momentKey then some value else none

mutual

/-- The value with each table that stands for a moment replaced by the moment. There is none if
such a table has no moment's text under its first key. -/
def Value.resolveMoments? : Value → Option Value
  | .array items => (resolveItems? items).map .array
  | .table entries =>
    match underMomentKey? entries with
    | none => (resolveEntries? entries).map .table
    | some (.string text) => (moment? .quoted text.toList).map .moment
    | some _ => none
  | value => some value

/-- The items of an array with their moments in place. -/
def resolveItems? : List Value → Option (List Value)
  | [] => some []
  | item :: rest => do
    let item ← item.resolveMoments?
    return item :: (← resolveItems? rest)

/-- The entries of a table with their moments in place. -/
def resolveEntries? : List (String × Value) → Option (List (String × Value))
  | [] => some []
  | (key, value) :: rest => do
    let value ← value.resolveMoments?
    return (key, value) :: (← resolveEntries? rest)

end

end FieldMap.Toml
