import FieldMap.Json.Basic
import FieldMap.Number.Layout
import FieldMap.Text.Quoted

/-!
# Writing JSON

`Json.write` is the compact text of a document: no blanks, members in order, and in texts only the
quote, the backslash and control characters escaped. A number that is not finite has no JSON form
and becomes `null`.
-/

namespace FieldMap.Json

/-- A character as it is written in a text. -/
def escapeChar : Char → List Char
  | '"' => ['\\', '"']
  | '\\' => ['\\', '\\']
  | '\x08' => ['\\', 'b']
  | '\t' => ['\\', 't']
  | '\n' => ['\\', 'n']
  | '\x0c' => ['\\', 'f']
  | '\r' => ['\\', 'r']
  | c => if c.toNat < 0x20 then '\\' :: 'u' :: Text.hex 4 c.toNat else [c]

/-- A text between quotes. -/
def writeText (s : String) : String :=
  String.ofList ('"' :: s.toList.flatMap escapeChar ++ ['"'])

/-- A number in floating point. -/
def writeFloat (x : Binary64) : String :=
  if x.isFinite then jsonLayout.write x else "null"

mutual

/-- The compact text of a document. -/
def write : Json → String
  | .null => "null"
  | .bool value => if value then "true" else "false"
  | .int value => toString value
  | .float value => writeFloat value
  | .string value => writeText value
  | .array items => "[" ++ ",".intercalate (writeItems items) ++ "]"
  | .object members => "\x7b" ++ ",".intercalate (writeMembers members) ++ "\x7d"

/-- The texts of an array's items. -/
def writeItems : List Json → List String
  | [] => []
  | item :: rest => write item :: writeItems rest

/-- The texts of an object's members. -/
def writeMembers : Members → List String
  | [] => []
  | (key, value) :: rest => (writeText key ++ ":" ++ write value) :: writeMembers rest

end

end FieldMap.Json
