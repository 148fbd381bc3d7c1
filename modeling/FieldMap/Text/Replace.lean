/-!
# Replacing parts of a text

`replaceAll` replaces every occurrence of a pattern, from the left and without overlaps. The
pattern has at least one character.
-/

namespace FieldMap.Text

/-- The text with every occurrence of `pattern` replaced, after `skip` characters that belong to an
occurrence already replaced. -/
def replaceFrom (pattern replacement : List Char) : (skip : Nat) → List Char → List Char
  | _, [] => []
  | skip + 1, _ :: rest => replaceFrom pattern replacement skip rest
  | 0, c :: rest =>
    if pattern.isPrefixOf (c :: rest) then
      replacement ++ replaceFrom pattern replacement (pattern.length - 1) rest
    else c :: replaceFrom pattern replacement 0 rest

/-- The text with every occurrence of `pattern` replaced. -/
def replaceAll (pattern replacement text : String) : String :=
  String.ofList (replaceFrom pattern.toList replacement.toList 0 text.toList)

end FieldMap.Text
