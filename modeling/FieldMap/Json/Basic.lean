import FieldMap.Number.Binary64

/-!
# JSON values

`Json` is a document as a tree, its objects in document order. `putMember` and `takeMember?` are
how objects change: a repeated key keeps its first place and takes its last value, and a taken
member's place is filled by the last one. `same` is equality of documents: numbers as numbers of
one kind, and objects up to the order of their members.
-/

namespace FieldMap

/-- A JSON value. Numbers written without point and exponent are integers if they fit 64 bits. -/
inductive Json where
  | null
  | bool (value : Bool)
  | int (value : Int)
  | float (value : Binary64)
  | string (value : String)
  | array (items : List Json)
  | object (members : List (String × Json))

/-- The members of an object, in order. -/
abbrev Members := List (String × Json)

namespace Json

/-- The value of a key among members. -/
def member? (key : String) (members : Members) : Option Json :=
  members.lookup key

/-- The members with `key` set to `value`: in its place if it is there, else at the end. -/
def putMember (members : Members) (key : String) (value : Json) : Members :=
  match members with
  | [] => [(key, value)]
  | (k, v) :: rest => if k = key then (k, value) :: rest else (k, v) :: putMember rest key value

/-- After a change the key has its new value and every other key the value it had. -/
theorem member?_putMember (members : Members) (key k : String) (value : Json) :
    member? k (putMember members key value) =
      if k = key then some value else member? k members := by
  induction members with
  | nil =>
    by_cases h : k = key
    · simp [putMember, member?, h]
    · simp [putMember, member?, List.lookup_cons, h, beq_false_of_ne h]
  | cons member rest ih =>
    obtain ⟨k', v⟩ := member
    simp only [member?] at ih ⊢
    by_cases h : k' = key
    · by_cases hk : k = key
      · simp [putMember, h, hk]
      · simp [putMember, List.lookup_cons, h, hk, beq_false_of_ne hk]
    · by_cases hk : k = k'
      · simp [putMember, h, hk]
      · simp [putMember, List.lookup_cons, h, beq_false_of_ne hk, ih]

/-- The members before, at and after the first one with `key`. -/
def splitAtKey (key : String) : Members → Option (Members × Json × Members)
  | [] => none
  | (k, v) :: rest =>
    if k = key then some ([], v, rest)
    else (splitAtKey key rest).map fun (before, found, after) => ((k, v) :: before, found, after)

/-- The value of a key and the members without it; the last member moves to the free place. -/
def takeMember? (key : String) (members : Members) : Option (Json × Members) :=
  (splitAtKey key members).map fun (before, found, after) =>
    match after.getLast? with
    | some last => (found, before ++ last :: after.dropLast)
    | none => (found, before)

mutual

/-- Whether two documents are equal. -/
def same : Json → Json → Bool
  | .null, .null => true
  | .bool a, .bool b => a == b
  | .int a, .int b => a == b
  | .float a, .float b => a == b
  | .string a, .string b => a == b
  | .array a, .array b => sameItems a b
  | .object a, .object b => a.length == b.length && sameMembers a b
  | _, _ => false

/-- Whether two lists of documents are equal item by item. -/
def sameItems : List Json → List Json → Bool
  | [], [] => true
  | a :: as, b :: bs => same a b && sameItems as bs
  | _, _ => false

/-- Whether every member has an equal one among `others`. -/
def sameMembers : Members → Members → Bool
  | [], _ => true
  | (key, a) :: rest, others =>
    (match member? key others with
      | some b => same a b
      | none => false) && sameMembers rest others

end

instance : BEq Json where
  beq := same

end Json

end FieldMap
