import FieldMap.Toml.Value

/-!
# Building tables

A TOML document defines its tables piece by piece: by headers, by dotted keys, and by headers of
table arrays. `Node` holds a table under construction with how it came about, which decides what
may still be added to it: `Node.insertAt?` enters a value under a dotted key, and `addSection?` a
whole section under its header. Nothing is ever defined twice.
-/

namespace FieldMap.Toml

/-- How a table came about. -/
inductive Origin where
  /-- By a header of its own, or as a document, an array element or an inline table. -/
  | explicit
  /-- By a header of a table inside it. -/
  | header
  /-- By a dotted key. -/
  | dotted
  deriving DecidableEq

/-- A part of a document under construction. -/
inductive Node where
  | leaf (value : Value)
  | table (origin : Origin) (entries : List (String × Node))
  | tables (elements : List (List (String × Node)))

/-- The entries of a table under construction. -/
abbrev Entries := List (String × Node)

mutual

/-- The finished value of a node. -/
def Node.toValue : Node → Value
  | .leaf value => value
  | .table _ entries => .table (entriesToValues entries)
  | .tables elements => .array (elementsToValues elements)

/-- The finished entries of a table. -/
def entriesToValues : List (String × Node) → List (String × Value)
  | [] => []
  | (key, node) :: rest => (key, node.toValue) :: entriesToValues rest

/-- The finished elements of a table array. -/
def elementsToValues : List (List (String × Node)) → List Value
  | [] => []
  | entries :: rest => .table (entriesToValues entries) :: elementsToValues rest

end

/-- The entries with `key` set to `node`: in its place if it is there, else at the end. -/
def putEntry (key : String) (node : Node) : Entries → Entries
  | [] => [(key, node)]
  | (k, n) :: rest => if k = key then (k, node) :: rest else (k, n) :: putEntry key node rest

/-- Changes the table that `path` leads to. Tables on the way are made, with origin `made`; the
last element stands for a table array. Dotted keys may not pass through explicit tables, and
nothing leads through a finished value. -/
def modifyAt? (made : Origin) (change : Origin → Entries → Option Entries) :
    (path : List String) → Origin → Entries → Option Entries
  | [], origin, entries => change origin entries
  | key :: path, _, entries =>
    match entries.lookup key with
    | none => do
      let inner ← modifyAt? made change path made []
      return putEntry key (.table made inner) entries
    | some (.leaf _) => none
    | some (.table origin inner) => do
      guard !(made = .dotted && origin = .explicit)
      let inner ← modifyAt? made change path origin inner
      return putEntry key (.table origin inner) entries
    | some (.tables elements) => do
      let last ← elements.getLast?
      let last ← modifyAt? made change path .explicit last
      return putEntry key (.tables (elements.dropLast ++ [last])) entries

/-- Enters a value under a dotted key, whose last part is `key`. A table reached by dots must have
been made by dots. -/
def insertAt? (path : List String) (key : String) (value : Value) (entries : Entries) :
    Option Entries :=
  modifyAt? .dotted (fun origin entries => do
    guard (path.isEmpty || origin = .dotted)
    guard (entries.lookup key).isNone
    return putEntry key (.leaf value) entries) path .explicit entries

/-- A key and the value under it; the key's parts before the last one lead to its table. -/
structure Assignment where
  path : List String
  key : String
  value : Value

/-- Enters assignments one after the other. -/
def insertAll? (assignments : List Assignment) (entries : Entries) : Option Entries :=
  assignments.foldlM (fun entries a => insertAt? a.path a.key a.value entries) entries

/-- What a section's header names. -/
inductive Header where
  /-- The document itself, before any header. -/
  | root
  | table (path : List String) (key : String)
  | element (path : List String) (key : String)

/-- A header and the assignments under it. -/
structure Section where
  header : Header
  body : List Assignment

/-- Enters a section. A table's header may complete a table that only headers inside it have made,
which then counts as entered anew, after its siblings; an element's header adds to a table array. -/
def addSection? (root : Entries) (part : Section) : Option Entries :=
  match part.header with
  | .root => insertAll? part.body root
  | .table path key =>
    modifyAt? .header (fun _ entries =>
      match entries.lookup key with
      | none => do
        return putEntry key (.table .explicit (← insertAll? part.body [])) entries
      | some (.table .header inner) => do
        let others := entries.filter (·.1 ≠ key)
        return others ++ [(key, .table .explicit (← insertAll? part.body inner))]
      | _ => none) path .explicit root
  | .element path key =>
    modifyAt? .header (fun _ entries =>
      match entries.lookup key with
      | none => do
        return putEntry key (.tables [← insertAll? part.body []]) entries
      | some (.tables elements) => do
        return putEntry key (.tables (elements ++ [← insertAll? part.body []])) entries
      | _ => none) path .explicit root

/-- The table that a document's sections define. -/
def tableOf? (sections : List Section) : Option Value := do
  let root ← sections.foldlM addSection? []
  return .table (entriesToValues root)

end FieldMap.Toml
