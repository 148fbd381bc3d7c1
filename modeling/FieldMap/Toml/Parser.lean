import FieldMap.Json.Token
import FieldMap.Toml.MomentTable
import FieldMap.Toml.Table

/-!
# Reading TOML

`Toml.parse?` reads a text into a value, which is a table unless that table stands for a moment.
Lines are headers or assignments; their order is kept as a list of sections, from which `tableOf?`
builds the document. Every reader takes the characters it needs off the front of the text and gives
back the rest.
-/

namespace FieldMap.Toml

/-- How deep arrays and inline tables may nest, and how many parts a dotted key may have. -/
def maxNesting : Nat :=
  79

/-! ## Blanks, comments and line ends -/

/-- Blanks within a line. -/
def isBlank (c : Char) : Bool :=
  c = ' ' || c = '\t'

/-- Characters that may stand in comments and texts: no controls except the tab. -/
def isShown (c : Char) : Bool :=
  c = '\t' || (0x20 ≤ c.toNat && c.toNat ≠ 0x7F)

/-- The text after the blanks at its front. -/
def skipBlanks (text : List Char) : List Char :=
  text.dropWhile isBlank

/-- The text after the line end at its front. -/
def takeNewline? : List Char → Option (List Char)
  | '\n' :: rest => some rest
  | '\r' :: '\n' :: rest => some rest
  | _ => none

/-- The text after blanks and a comment. -/
def skipComment (text : List Char) : List Char :=
  match skipBlanks text with
  | '#' :: rest => rest.dropWhile isShown
  | rest => rest

/-- The text after the end of a line that holds no more than blanks and a comment. -/
def takeLineEnd? (text : List Char) : Option (List Char) :=
  match skipComment text with
  | [] => some []
  | rest => takeNewline? rest

/-- The text after blanks, comments and line ends. -/
def skipLines : (fuel : Nat) → List Char → List Char
  | 0, text => text
  | fuel + 1, text =>
    match takeNewline? (skipComment text) with
    | some rest => skipLines fuel rest
    | none => skipComment text

/-! ## Texts -/

/-- The character that a list of hexadecimal digits numbers. -/
def numbered? (digits : List Char) : Option Char := do
  let code ← Json.hexValue? digits
  if h : code.isValidChar then some (Char.ofNatAux code h) else none

/-- What a letter stands for after a backslash. -/
def simpleEscape? : Char → Option Char
  | 'b' => some '\x08'
  | 't' => some '\t'
  | 'n' => some '\n'
  | 'f' => some '\x0c'
  | 'r' => some '\r'
  | '"' => some '"'
  | '\\' => some '\\'
  | _ => none

/-- The text after all blanks and line ends at its front. -/
def skipSpace : List Char → List Char
  | '\r' :: '\n' :: rest => skipSpace rest
  | c :: rest => if isBlank c || c = '\n' then skipSpace rest else c :: rest
  | [] => []

/-- What follows a backslash at the end of a line: the text after the line end and the blanks and
line ends behind it. -/
def joinedLine? (text : List Char) : Option (List Char) :=
  (takeNewline? (skipBlanks text)).map skipSpace

/-- The character after a backslash, and what follows it. -/
def takeEscape? : List Char → Option (Char × List Char)
  | [] => none
  | c :: rest =>
    if c = 'u' then do
      guard (4 ≤ rest.length)
      return (← numbered? (rest.take 4), rest.drop 4)
    else if c = 'U' then do
      guard (8 ≤ rest.length)
      return (← numbered? (rest.take 8), rest.drop 8)
    else do
      return (← simpleEscape? c, rest)

/-- The text of the body of a basic text; only in a text of several lines may lines end. -/
def unescape? (severalLines : Bool) : (fuel : Nat) → List Char → Option (List Char)
  | _, [] => some []
  | 0, _ => none
  | fuel + 1, '\\' :: rest =>
    match if severalLines then joinedLine? rest else none with
    | some rest => unescape? severalLines fuel rest
    | none => do
      let (c, rest) ← takeEscape? rest
      return c :: (← unescape? severalLines fuel rest)
  | fuel + 1, c :: rest =>
    if isShown c then (unescape? severalLines fuel rest).map (c :: ·)
    else do
      guard severalLines
      let rest ← takeNewline? (c :: rest)
      return '\n' :: (← unescape? severalLines fuel rest)

/-- The text of the body of a literal text. -/
def literal? (severalLines : Bool) : List Char → Option (List Char)
  | [] => some []
  | '\r' :: '\n' :: rest => do
    guard severalLines
    return '\n' :: (← literal? severalLines rest)
  | c :: rest => do
    guard (isShown c || (severalLines && c = '\n'))
    return c :: (← literal? severalLines rest)

/-- The body up to a closing `quote` on its own, and what follows it. Where `escapes` holds, a
character after a backslash does not close. -/
def takeBody? (quote : Char) (escapes : Bool) : List Char → Option (List Char × List Char)
  | [] => none
  | c :: rest =>
    if c = quote then some ([], rest)
    else if escapes && c = '\\' then
      match rest with
      | [] => none
      | d :: rest => (takeBody? quote escapes rest).map fun (body, after) => (c :: d :: body, after)
    else (takeBody? quote escapes rest).map fun (body, after) => (c :: body, after)

/-- The body up to three closing quotes, and what follows them. Up to two more quotes right
before the closing ones belong to the body. -/
def takeLongBody? (quote : Char) (escapes : Bool) : List Char → Option (List Char × List Char)
  | [] => none
  | c :: rest =>
    if c = quote ∧ rest.take 2 = [quote, quote] then
      let more := ((rest.drop 2).take 2).takeWhile (· = quote)
      some (more, rest.drop (2 + more.length))
    else if escapes && c = '\\' then
      match rest with
      | [] => none
      | d :: rest =>
        (takeLongBody? quote escapes rest).map fun (body, after) => (c :: d :: body, after)
    else (takeLongBody? quote escapes rest).map fun (body, after) => (c :: body, after)

/-- The text of a body between quotes. -/
def readBody? (quote : Char) (severalLines : Bool) (body : List Char) : Option String :=
  (if quote = '"' then unescape? severalLines body.length body
    else literal? severalLines body).map String.ofList

/-- A quoted text on one line, the opening quote having been taken. -/
def takeText? (quote : Char) (text : List Char) : Option (String × List Char) := do
  let (body, rest) ← takeBody? quote (quote = '"') text
  return (← readBody? quote false body, rest)

/-- A quoted text of several lines, the opening quotes having been taken. A line end right after
them does not count. -/
def takeLongText? (quote : Char) (text : List Char) : Option (String × List Char) := do
  let (body, rest) ← takeLongBody? quote (quote = '"') ((takeNewline? text).getD text)
  return (← readBody? quote true body, rest)

/-! ## Keys -/

/-- Characters of keys without quotes. -/
def isBareKey (c : Char) : Bool :=
  c.isAlphanum || c = '-' || c = '_'

/-- One part of a key. -/
def takeKeyPart? : List Char → Option (String × List Char)
  | [] => none
  | c :: rest =>
    if c = '"' || c = '\'' then takeText? c rest
    else if isBareKey c then
      some (String.ofList (c :: rest.takeWhile isBareKey), rest.dropWhile isBareKey)
    else none

/-- The parts of a key set apart by dots, with blanks around each. -/
def takeKey? : (fuel : Nat) → List Char → Option (List String × List Char)
  | 0, _ => none
  | fuel + 1, text => do
    let (part, rest) ← takeKeyPart? (skipBlanks text)
    match skipBlanks rest with
    | '.' :: rest =>
      let (parts, rest) ← takeKey? fuel rest
      return (part :: parts, rest)
    | rest => return ([part], rest)

/-- A key as the way to its table and its last part. -/
def splitKey? (parts : List String) : Option (List String × String) := do
  guard (parts.length ≤ maxNesting)
  return (parts.dropLast, ← parts.getLast?)

/-! ## Numbers and words -/

/-- Digits with single underscores between them, without the underscores. -/
def plainDigits? (isDigit : Char → Bool) : List Char → Option (List Char)
  | [] => none
  | [c] => if isDigit c then some [c] else none
  | c :: '_' :: rest => do
    guard (isDigit c)
    return c :: (← plainDigits? isDigit rest)
  | c :: rest => do
    guard (isDigit c)
    return c :: (← plainDigits? isDigit rest)

/-- The digits of a whole part, which has no zero in front. -/
def wholeDigits? (text : List Char) : Option (List Char) := do
  guard (text.length = 1 || text.head? ≠ some '0')
  plainDigits? Char.isDigit text

/-- An integer if it fits 64 bits with its sign. -/
def integer? (negative : Bool) (n : Nat) : Option Value :=
  if negative then
    if n ≤ Nat.pow 2 63 then some (.int (-n)) else none
  else if n < Nat.pow 2 63 then some (.int n) else none

/-- The value of digits in a base that is a power of two. -/
def digitsIn? (base : Nat) (text : List Char) : Option Value := do
  let digits ← plainDigits? (fun c => (Json.hexDigit? c).any (· < base)) text
  integer? false (digits.foldl (fun n c => base * n + (Json.hexDigit? c).getD 0) 0)

/-- A number with a point or an exponent. One that is too great has no sign in front of infinity,
so only a negative one may be. -/
def float? (negative : Bool) (text : List Char) : Option Value := do
  let isMark (c : Char) : Bool := c = '.' || c = 'e' || c = 'E'
  let whole ← wholeDigits? (text.takeWhile (!isMark ·))
  let rest := text.dropWhile (!isMark ·)
  let (fraction, rest) ← match rest with
    | '.' :: rest => do
      let fraction ← plainDigits? Char.isDigit (rest.takeWhile (!isMark ·))
      pure (fraction, rest.dropWhile (!isMark ·))
    | rest => pure ([], rest)
  let power ← match rest with
    | [] => pure 0
    | mark :: rest => do
      guard (mark ≠ '.')
      let (negativePower, digits) := takeSign rest
      let power := digitsValue (← plainDigits? Char.isDigit digits)
      pure (if negativePower then -(power : Int) else power)
  let value := Binary64.ofDecimal negative (digitsValue (whole ++ fraction))
    (power - fraction.length)
  guard (value ≠ .infinite false)
  return .float value

/-- A number in decimal digits, or one of the words for infinity and for no number. -/
def decimal? (word : List Char) : Option Value :=
  let (negative, text) := takeSign word
  if text = ['i', 'n', 'f'] then some (.float (.infinite negative))
  else if text = ['n', 'a', 'n'] then some (.float .nan)
  else if text.any fun c => c = '.' || c = 'e' || c = 'E' then float? negative text
  else (wholeDigits? text).bind fun digits => integer? negative (digitsValue digits)

/-- The value of a word: a truth value, a date or time, or a number. -/
def word? (word : List Char) : Option Value :=
  match word with
  | ['t', 'r', 'u', 'e'] => some (.bool true)
  | ['f', 'a', 'l', 's', 'e'] => some (.bool false)
  | '0' :: 'x' :: digits => digitsIn? 16 digits
  | '0' :: 'o' :: digits => digitsIn? 8 digits
  | '0' :: 'b' :: digits => digitsIn? 2 digits
  | word =>
    match moment? .bare word with
    | some text => some (.moment text)
    | none => decimal? word

/-- Characters of words. -/
def isWord (c : Char) : Bool :=
  c.isAlphanum || c = '+' || c = '-' || c = '_' || c = '.' || c = ':'

/-- Whether a text begins with a blank and a time of day, as after a date. -/
def timeFollows : List Char → Bool
  | ' ' :: a :: b :: ':' :: _ => a.isDigit && b.isDigit
  | _ => false

/-- The value of the word at the front; a date and a time may be set apart by a blank. -/
def takeWord? (text : List Char) : Option (Value × List Char) :=
  let word := text.takeWhile isWord
  let rest := text.dropWhile isWord
  if (takeDate? word).any (·.2.isEmpty) && timeFollows rest then
    let time := rest.tail
    (word? (word ++ ' ' :: time.takeWhile isWord)).map (·, time.dropWhile isWord)
  else (word? word).map (·, rest)

/-! ## Values -/

/-- The entries of an inline table as a value. -/
def inlineTable? (assignments : List Assignment) : Option Value := do
  return .table (entriesToValues (← insertAll? assignments []))

mutual

/-- The value at the front, within `depth` further containers. -/
def takeValue? : (fuel depth : Nat) → List Char → Option (Value × List Char)
  | 0, _, _ => none
  | fuel + 1, depth, text =>
    match text with
    | '"' :: '"' :: '"' :: rest => (takeLongText? '"' rest).map fun (s, rest) => (.string s, rest)
    | '\'' :: '\'' :: '\'' :: rest =>
      (takeLongText? '\'' rest).map fun (s, rest) => (.string s, rest)
    | '"' :: rest => (takeText? '"' rest).map fun (s, rest) => (.string s, rest)
    | '\'' :: rest => (takeText? '\'' rest).map fun (s, rest) => (.string s, rest)
    | '[' :: rest =>
      match depth with
      | 0 => none
      | depth + 1 => (takeItems? fuel depth rest).map fun (items, rest) => (.array items, rest)
    | '{' :: rest =>
      match depth with
      | 0 => none
      | depth + 1 =>
        match skipBlanks rest with
        | '}' :: rest => some (.table [], rest)
        | rest => do
          let (assignments, rest) ← takeAssignments? fuel depth rest
          return (← inlineTable? assignments, rest)
    | text => takeWord? text

/-- The items of an array up to its end; a comma may follow the last one. -/
def takeItems? : (fuel depth : Nat) → List Char → Option (List Value × List Char)
  | 0, _, _ => none
  | fuel + 1, depth, text =>
    match skipLines text.length text with
    | ']' :: rest => some ([], rest)
    | text => do
      let (item, rest) ← takeValue? fuel depth text
      match skipLines rest.length rest with
      | ']' :: rest => return ([item], rest)
      | ',' :: rest =>
        let (items, rest) ← takeItems? fuel depth rest
        return (item :: items, rest)
      | _ => none

/-- The entries of an inline table up to its end; no comma follows the last one. -/
def takeAssignments? : (fuel depth : Nat) → List Char → Option (List Assignment × List Char)
  | 0, _, _ => none
  | fuel + 1, depth, text => do
    let (parts, rest) ← takeKey? text.length text
    let (path, key) ← splitKey? parts
    let '=' :: rest := rest | none
    let (value, rest) ← takeValue? fuel depth (skipBlanks rest)
    match skipBlanks rest with
    | '}' :: rest => return ([⟨path, key, value⟩], rest)
    | ',' :: rest =>
      let (assignments, rest) ← takeAssignments? fuel depth rest
      return (⟨path, key, value⟩ :: assignments, rest)
    | _ => none

end

/-! ## Documents -/

/-- A header, its first bracket having been taken, and what follows its line. -/
def takeHeader? (text : List Char) : Option (Header × List Char) := do
  match text with
  | '[' :: rest =>
    let (parts, rest) ← takeKey? rest.length rest
    let (path, key) ← splitKey? parts
    let ']' :: ']' :: rest := rest | none
    return (.element path key, ← takeLineEnd? rest)
  | rest =>
    let (parts, rest) ← takeKey? rest.length rest
    let (path, key) ← splitKey? parts
    let ']' :: rest := rest | none
    return (.table path key, ← takeLineEnd? rest)

/-- An assignment and what follows its line. -/
def takeAssignment? (text : List Char) : Option (Assignment × List Char) := do
  let (parts, rest) ← takeKey? text.length text
  let (path, key) ← splitKey? parts
  let '=' :: rest := rest | none
  let (value, rest) ← takeValue? (2 * rest.length + 2) maxNesting (skipBlanks rest)
  return (⟨path, key, value⟩, ← takeLineEnd? rest)

/-- The sections of a document, the one at hand having `header` and, last first, `body`. -/
def sections? (header : Header) (body : List Assignment) :
    (fuel : Nat) → List Char → Option (List Section)
  | 0, _ => none
  | fuel + 1, text =>
    match skipLines text.length text with
    | [] => some [⟨header, body.reverse⟩]
    | '[' :: rest => do
      let (next, rest) ← takeHeader? rest
      return ⟨header, body.reverse⟩ :: (← sections? next [] fuel rest)
    | text => do
      let (assignment, rest) ← takeAssignment? text
      sections? header (assignment :: body) fuel rest

/-- The value that a text describes. A byte order mark may come first. -/
def parse? (text : String) : Option Value :=
  let text := match text.toList with
    | '\uFEFF' :: rest => rest
    | text => text
  ((sections? .root [] (text.length + 1) text).bind tableOf?).bind Value.resolveMoments?

end FieldMap.Toml
