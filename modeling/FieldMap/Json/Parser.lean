import FieldMap.Json.Token

/-!
# Reading JSON

`Json.parse?` reads a text that holds one document. It runs a machine over the text's tokens: a
stack of open arrays and objects, and what may come next. Containers nest at most `maxDepth` deep.
-/

namespace FieldMap.Json

/-- How deep containers may nest. -/
def maxDepth : Nat :=
  127

/-- A container that is still open, or a member that waits for its value. Items are held last
first. -/
inductive Frame where
  | array (items : List Json)
  | object (members : Members)
  | member (members : Members) (key : String)

/-- What has been read, and what may come next. -/
inductive Reading where
  /-- A value must come. -/
  | needValue (stack : List Frame)
  /-- An item or the end of an array that has none yet. -/
  | firstItem (stack : List Frame)
  /-- A key or the end of an object that has none yet. -/
  | firstKey (members : Members) (outer : List Frame)
  /-- A key must come. -/
  | needKey (members : Members) (outer : List Frame)
  /-- The colon between a key and its value. -/
  | needColon (members : Members) (key : String) (outer : List Frame)
  /-- A comma or the end of the innermost container. -/
  | next (stack : List Frame)
  /-- The document is complete. -/
  | done (value : Json)

/-- A complete value takes its place in the innermost open container. -/
def Reading.place (value : Json) : List Frame → Option Reading
  | [] => some (.done value)
  | .array items :: outer => some (.next (.array (value :: items) :: outer))
  | .member members key :: outer => some (.next (.object (putMember members key value) :: outer))
  | .object _ :: _ => none

/-- A value begins: a scalar is complete, a container opens if it is not too deep. -/
def Reading.begin (stack : List Frame) : Token → Option Reading
  | .scalar value => place value stack
  | .text value => place (.string value) stack
  | .openArray => if stack.length < maxDepth then some (.firstItem (.array [] :: stack)) else none
  | .openObject => if stack.length < maxDepth then some (.firstKey [] stack) else none
  | _ => none

/-- The reading after one more token. -/
def Reading.step : Reading → Token → Option Reading
  | .firstItem (.array _ :: outer), .closeArray => place (.array []) outer
  | .firstItem stack, token | .needValue stack, token => begin stack token
  | .firstKey _ outer, .closeObject => place (.object []) outer
  | .firstKey members outer, .text key | .needKey members outer, .text key =>
    some (.needColon members key outer)
  | .needColon members key outer, .colon => some (.needValue (.member members key :: outer))
  | .next (.array items :: outer), .comma => some (.needValue (.array items :: outer))
  | .next (.array items :: outer), .closeArray => place (.array items.reverse) outer
  | .next (.object members :: outer), .comma => some (.needKey members outer)
  | .next (.object members :: outer), .closeObject => place (.object members) outer
  | _, _ => none

/-- The document that a complete reading holds. -/
def Reading.result? : Reading → Option Json
  | .done value => some value
  | _ => none

/-- The document that a text holds, if it holds exactly one. -/
def parse? (text : String) : Option Json := do
  let tokens ← Token.scan? text.toList
  let reading ← tokens.foldlM Reading.step (.needValue [])
  reading.result?

end FieldMap.Json
