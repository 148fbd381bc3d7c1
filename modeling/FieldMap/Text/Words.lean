import FieldMap.Text.Blank
import FieldMap.Text.Case

/-!
# Words of a name

How a label is read off an attribute name (`labelOfName`) and how a class name in camel case is
split into words (`camelCaseToSpaces`). The split is made in two passes over ASCII letters:
`separateWords` puts a space before a capitalised word, `separateCapitals` between a small letter
or digit and the capital after it.
-/

namespace FieldMap.Text

/-- The text with every underscore made a space. -/
def underscoresToSpaces (s : String) : String :=
  String.ofList (s.toList.map fun c => if c = '_' then ' ' else c)

/-- The label of an attribute that was given none: underscores become spaces and the first
character is capitalised. -/
def labelOfName (name : String) : String :=
  capitalize (underscoresToSpaces name)

/-- A space before each capital that is followed by a small letter and preceded by a character on
its line, except by the last letter of the word just separated. -/
def separateWords : List Char → List Char
  | c :: capital :: rest =>
    if c ≠ '\n' && capital.isUpper && rest.head?.any Char.isLower then
      c :: ' ' :: capital ::
        (rest.takeWhile Char.isLower ++ separateWords (rest.dropWhile Char.isLower))
    else c :: separateWords (capital :: rest)
  | short => short
termination_by text => text.length
decreasing_by
  · have := (List.dropWhile_suffix (l := rest) Char.isLower).length_le
    simp only [List.length_cons]
    omega
  · simp

/-- A space between a small letter or digit and the capital after it. -/
def separateCapitals : List Char → List Char
  | [] => []
  | c :: rest =>
    if (c.isLower || c.isDigit) && rest.head?.any Char.isUpper then
      c :: ' ' :: separateCapitals rest
    else c :: separateCapitals rest

/-- The words of a name in camel case, in lower case and set apart by spaces. -/
def camelCaseToSpaces (s : String) : String :=
  lowercase (String.ofList (trim (separateCapitals (separateWords s.toList))))

end FieldMap.Text
