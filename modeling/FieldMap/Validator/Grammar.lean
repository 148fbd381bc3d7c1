import FieldMap.Text.Blank

/-!
# Forms of texts

The forms that validators ask of a text: links (`linkScheme?`), mail addresses (`isEmail`) and
slugs (`isSlug`).
-/

namespace FieldMap.Grammar

/-! ## Links -/

/-- Letters of schemes: those of ASCII and the two signs that differ from one only in case. -/
def isSchemeLetter (c : Char) : Bool :=
  c.isAlpha || c = 'ſ' || c = '\u212A'

/-- Characters of schemes after the first. -/
def isSchemeChar (c : Char) : Bool :=
  isSchemeLetter c || c.isDigit || c = '.' || c = '+' || c = '-'

/-- A scheme: a letter, then letters, digits, points, plus signs and hyphens. -/
def isScheme : List Char → Bool
  | [] => false
  | first :: rest => isSchemeLetter first && rest.all isSchemeChar

/-- Characters that end a link's host. -/
def endsHost (c : Char) : Bool :=
  c = '/' || c = '?' || c = '#'

/-- What follows a link's scheme and slashes: a host of at least one character, then anything
without blanks. -/
def isLocation : List Char → Bool
  | [] => false
  | first :: rest => !endsHost first && (first :: rest).all (!Text.isBlank ·)

/-- The scheme of a link, in the letter case it is written in. -/
def linkScheme? (text : List Char) : Option (List Char) :=
  let scheme := text.takeWhile (· ≠ ':')
  match text.dropWhile (· ≠ ':') with
  | ':' :: '/' :: '/' :: location =>
    if isScheme scheme && isLocation location then some scheme else none
  | _ => none

/-! ## Mail addresses -/

/-- Characters of the part before the at sign. -/
def isMailboxChar (c : Char) : Bool :=
  c.isAlphanum || ".!#$%&'*+/=?^_`\x7b|\x7d~-".toList.contains c

/-- Characters of a domain's labels. -/
def isLabelChar (c : Char) : Bool :=
  c.isAlphanum || c = '-'

/-- Whether a text has at least one character, all of one class. -/
def isRun (ofClass : Char → Bool) (text : List Char) : Bool :=
  !text.isEmpty && text.all ofClass

/-- A mail address: a mailbox, an at sign, and a domain of labels set apart by points. -/
def isEmail (text : List Char) : Bool :=
  match text.dropWhile (· ≠ '@') with
  | [] => false
  | _ :: domain =>
    isRun isMailboxChar (text.takeWhile (· ≠ '@')) &&
      (domain.splitOn '.').all (isRun isLabelChar)

/-! ## Slugs -/

/-- Characters of slugs. -/
def isSlugChar (c : Char) : Bool :=
  c.isAlphanum || c = '-' || c = '_'

/-- A slug: letters, digits, hyphens and underscores of ASCII. -/
def isSlug (text : List Char) : Bool :=
  isRun isSlugChar text

end FieldMap.Grammar
