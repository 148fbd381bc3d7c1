/-!
# Errors

`ValidationError` is what a rejected value is told: one message, or messages for named fields.
`Error` is every failure that leaves the library, by kind; `Error.message` is its text.
-/

namespace FieldMap

/-- Why a value was rejected: a message with a code, or the errors of named fields. The order of
`params` and of `fieldErrors` carries no meaning; the latter is the one in which they are told. -/
structure ValidationError where
  message : String := ""
  code : String := ""
  params : List (String × String) := []
  fieldErrors : List (String × List ValidationError) := []

namespace ValidationError

/-- An error with a message and a code. -/
def ofMessage (message code : String) : ValidationError :=
  { message, code }

/-- An error that consists of the errors of named fields. -/
def ofFields (fieldErrors : List (String × List ValidationError)) : ValidationError :=
  { fieldErrors }

/-- The pairs with `key` set to `value`: in its place if it is there, else at the end. -/
def putParam (key value : String) : List (String × String) → List (String × String)
  | [] => [(key, value)]
  | (k, v) :: rest => if k = key then (k, value) :: rest else (k, v) :: putParam key value rest

/-- The error with one more parameter, or with a new value for one it has. -/
def withParam (e : ValidationError) (key value : String) : ValidationError :=
  { e with params := putParam key value e.params }

/-- A list of entries that is being written: its text so far, and whether no entry stands in it
yet. -/
structure Listing where
  text : String := ""
  isEmpty : Bool := true

/-- The list with one more entry, behind a separator unless it is the first one. -/
def Listing.add (listing : Listing) (entry : String) : Listing where
  text := (if listing.isEmpty then listing.text else listing.text ++ "; ") ++ entry
  isEmpty := false

mutual

/-- The text of an error: its message, or if it has none the list of its fields' errors. -/
def text : ValidationError → String
  | ⟨message, _, _, fieldErrors⟩ =>
    if message ≠ "" then message
    else if fieldErrors.isEmpty then "" else (addFields {} fieldErrors).text

/-- The list with one more entry for each error of each field, fields and errors in order. -/
def addFields (listing : Listing) : List (String × List ValidationError) → Listing
  | [] => listing
  | (field, errors) :: rest => addFields (addErrors field listing errors) rest

/-- The list with one more entry for each error of a field. -/
def addErrors (field : String) (listing : Listing) : List ValidationError → Listing
  | [] => listing
  | e :: rest => addErrors field (listing.add (field ++ ": " ++ text e)) rest

end

end ValidationError

/-- A failure, by kind. -/
inductive Error where
  /-- No class of a value's lineage is in a table. -/
  | lookup (detail : String)
  /-- A value was rejected. -/
  | validation (cause : ValidationError)
  /-- Settings could not be read. -/
  | configuration (detail : String)
  /-- A request does not fit the model it was made of. -/
  | improperlyConfigured (detail : String)
  /-- Something could not be written or read as a document. -/
  | serialization (detail : String)
  /-- Input or output failed. -/
  | io (detail : String)

namespace Error

/-- The text of a failure. -/
def message : Error → String
  | .lookup detail => "Lookup error: " ++ detail
  | .validation cause => "Validation error: " ++ cause.text
  | .configuration detail => "Configuration error: " ++ detail
  | .improperlyConfigured detail => "Improperly configured: " ++ detail
  | .serialization detail => "Serialization error: " ++ detail
  | .io detail => "IO error: " ++ detail

/-- Whether a failure is a failed class lookup. -/
def isLookup : Error → Bool
  | .lookup _ => true
  | _ => false

end Error

end FieldMap
