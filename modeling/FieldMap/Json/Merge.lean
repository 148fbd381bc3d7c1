import FieldMap.Json.Basic

/-!
# Laying one document over another

`Json.merge base overlay` descends where both documents have an object and takes the overlay's
value everywhere else. An overlaid member moves to the end of its object, and the last member
before it fills its place.
-/

namespace FieldMap.Json

mutual

/-- The document `overlay` laid over `base`. -/
def merge (base overlay : Json) : Json :=
  match base, overlay with
  | .object members, .object overrides => .object (mergeMembers members overrides)
  | _, overlay => overlay

/-- The members of an object with those of another laid over them, one by one. -/
def mergeMembers (members : Members) : (overrides : Members) → Members
  | [] => members
  | (key, value) :: rest =>
    match takeMember? key members with
    | some (old, others) => mergeMembers (others ++ [(key, merge old value)]) rest
    | none => mergeMembers (members ++ [(key, value)]) rest

end

end FieldMap.Json
