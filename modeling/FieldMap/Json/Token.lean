import FieldMap.Json.Basic
import FieldMap.Number.Decimal

/-!
# JSON tokens

A document's text as a list of tokens (`Token.scan?`). Texts are read in three steps: the raw body
up to the closing quote (`takeBody?`), its characters and escaped 16-bit units (`pieces?`), and
the text they make, in which a unit of a surrogate pair never stands alone (`joinPieces?`).
Numbers keep at most 64 bits of digits, and reach their power of ten by one multiplication or at
most two divisions in floating point (`Json.floatOf?`).
-/

namespace FieldMap.Json

/-! ## Texts -/

/-- The raw body of a text and what follows its closing quote. Control characters may not stand in
a text. -/
def takeBody? : List Char → Option (List Char × List Char)
  | [] => none
  | c :: rest =>
    if c = '"' then some ([], rest)
    else if c.toNat < 0x20 then none
    else if c = '\\' then
      match rest with
      | [] => none
      | escaped :: rest => (takeBody? rest).map fun (body, after) => (c :: escaped :: body, after)
    else (takeBody? rest).map fun (body, after) => (c :: body, after)

/-- A character as it stands, or an escaped 16-bit unit. -/
inductive Piece where
  | char (c : Char)
  | unit (code : Nat)

/-- The value of a hexadecimal digit. -/
def hexDigit? (c : Char) : Option Nat :=
  if c.isDigit then some (c.toNat - '0'.toNat)
  else if 'a' ≤ c ∧ c ≤ 'f' then some (c.toNat - 'a'.toNat + 10)
  else if 'A' ≤ c ∧ c ≤ 'F' then some (c.toNat - 'A'.toNat + 10)
  else none

/-- The value of a list of hexadecimal digits. -/
def hexValue? (digits : List Char) : Option Nat :=
  digits.foldlM (fun n c => (hexDigit? c).map (16 * n + ·)) 0

/-- What a character stands for after a backslash. -/
def simpleEscape? : Char → Option Char
  | '"' => some '"'
  | '\\' => some '\\'
  | '/' => some '/'
  | 'b' => some '\x08'
  | 'f' => some '\x0c'
  | 'n' => some '\n'
  | 'r' => some '\r'
  | 't' => some '\t'
  | _ => none

/-- The characters and units of a raw body. -/
def pieces? : List Char → Option (List Piece)
  | [] => some []
  | '\\' :: 'u' :: a :: b :: c :: d :: rest => do
    let code ← hexValue? [a, b, c, d]
    return .unit code :: (← pieces? rest)
  | '\\' :: c :: rest => do
    let plain ← simpleEscape? c
    return .char plain :: (← pieces? rest)
  | c :: rest => do
    return .char c :: (← pieces? rest)

/-- The text of characters and units; a high unit needs a low one right after it. -/
def joinPieces? : List Piece → Option (List Char)
  | [] => some []
  | .char c :: rest => (joinPieces? rest).map (c :: ·)
  | .unit high :: .unit low :: rest =>
    if 0xD800 ≤ high ∧ high < 0xDC00 then
      if 0xDC00 ≤ low ∧ low < 0xE000 then
        let code := 0x10000 + (high - 0xD800) * 0x400 + (low - 0xDC00)
        (joinPieces? rest).map (Char.ofNat code :: ·)
      else none
    else if 0xDC00 ≤ high ∧ high < 0xE000 then none
    else (joinPieces? (.unit low :: rest)).map (Char.ofNat high :: ·)
  | .unit code :: rest =>
    if 0xD800 ≤ code ∧ code < 0xE000 then none
    else (joinPieces? rest).map (Char.ofNat code :: ·)

/-- The text of a raw body. -/
def unescape? (body : List Char) : Option String := do
  return String.ofList (← joinPieces? (← pieces? body))

/-! ## Numbers -/

/-- The greatest natural number of 64 bits. -/
def maxDigits : Nat :=
  Nat.pow 2 64 - 1

/-- Appends digits to `n` as long as the result fits 64 bits; also the digits left over. -/
def absorbDigits (n : Nat) : List Char → Nat × List Char
  | [] => (n, [])
  | d :: rest =>
    let next := 10 * n + (d.toNat - '0'.toNat)
    if next ≤ maxDigits then absorbDigits next rest else (n, d :: rest)

/-- The power of ten, rounded. -/
def powerOfTen (exponent : Nat) : Binary64 :=
  .ofDecimal false 1 exponent

/-- `digits * 10 ^ exponent` in floating point: the digits are rounded first, then multiplied by a
power of ten or divided by up to two. A value beyond the greatest number is refused. -/
def floatOf? (negative : Bool) (digits : Nat) (exponent : Int) : Option Binary64 :=
  let start := Binary64.ofInt digits
  let value? : Option Binary64 :=
    if 308 < exponent then if digits = 0 then some start else none
    else if 0 ≤ exponent then
      let product := start.mul (powerOfTen exponent.toNat)
      if product.isFinite then some product else none
    else if -308 ≤ exponent then some (start.div (powerOfTen (-exponent).toNat))
    else if -616 ≤ exponent then
      some ((start.div (powerOfTen 308)).div (powerOfTen (-exponent - 308).toNat))
    else some (.zero false)
  value?.map fun value => if negative then value.neg else value

/-- A number written with a point, with an exponent, or with more digits than fit. -/
def decimalOf? (negative : Bool) (whole fraction : List Char) (power : Int) : Option Json :=
  let (digits, droppedWhole) := absorbDigits 0 whole
  let (digits, droppedFraction) := absorbDigits digits fraction
  let kept := fraction.length - droppedFraction.length
  (floatOf? negative digits (power + droppedWhole.length - kept)).map .float

/-- An integer: as it is if it fits 64 bits with its sign, else in floating point. Zero with a
sign is the negative zero. -/
def integerOf? (negative : Bool) (whole : List Char) : Option Json :=
  let n := digitsValue whole
  if maxDigits < n then decimalOf? negative whole [] 0
  else if negative = false then some (.int n)
  else if n = 0 ∨ Nat.pow 2 63 < n then some (.float (Binary64.ofInt n).neg)
  else some (.int (-n))

/-- The number that a whole text of digits, signs, points and exponent marks stands for. -/
def numberOf? (text : List Char) : Option Json := do
  let (negative, text) := match text with
    | '-' :: rest => (true, rest)
    | rest => (false, rest)
  let whole := text.takeWhile Char.isDigit
  guard (!whole.isEmpty && (whole.length == 1 || whole.head? != some '0'))
  match text.dropWhile Char.isDigit with
  | [] => integerOf? negative whole
  | '.' :: rest =>
    let fraction := rest.takeWhile Char.isDigit
    guard !fraction.isEmpty
    decimalOf? negative whole fraction (← readExponent? (rest.dropWhile Char.isDigit))
  | rest => decimalOf? negative whole [] (← readExponent? rest)

/-! ## Scanning -/

/-- The smallest parts of a document. -/
inductive Token where
  | openArray
  | closeArray
  | openObject
  | closeObject
  | colon
  | comma
  | text (value : String)
  | scalar (value : Json)

/-- A token of one character. -/
def Token.mark? : Char → Option Token
  | '[' => some .openArray
  | ']' => some .closeArray
  | '{' => some .openObject
  | '}' => some .closeObject
  | ':' => some .colon
  | ',' => some .comma
  | _ => none

/-- The value of a bare word. -/
def wordOf? (word : List Char) : Option Json :=
  match String.ofList word with
  | "null" => some .null
  | "true" => some (.bool true)
  | "false" => some (.bool false)
  | _ => none

/-- Blanks between tokens. -/
def isSpace (c : Char) : Bool :=
  c = ' ' || c = '\n' || c = '\t' || c = '\r'

/-- Characters of numbers. -/
def isNumeric (c : Char) : Bool :=
  c.isDigit || c = '-' || c = '+' || c = '.' || c = 'e' || c = 'E'

theorem takeBody?_length {text body rest : List Char} (h : takeBody? text = some (body, rest)) :
    rest.length < text.length := by
  fun_induction takeBody? text generalizing body rest with
  | case1 => simp at h
  | case2 => simp_all
  | case3 => simp at h
  | case4 => simp at h
  | case5 _ _ _ _ ih =>
    obtain ⟨⟨b, r⟩, hr, he⟩ := Option.map_eq_some_iff.1 h
    have := ih hr
    simp only [Prod.mk.injEq] at he
    simp only [← he.2, List.length_cons]
    omega
  | case6 _ _ _ _ _ ih =>
    obtain ⟨⟨b, r⟩, hr, he⟩ := Option.map_eq_some_iff.1 h
    have := ih hr
    simp only [Prod.mk.injEq] at he
    simp only [← he.2, List.length_cons]
    omega

/-- The tokens of a text. -/
def Token.scan? : List Char → Option (List Token)
  | [] => some []
  | c :: rest =>
    if isSpace c then scan? rest
    else if c = '"' then
      match _taken : takeBody? rest with
      | some (body, after) => do
        let value ← unescape? body
        return .text value :: (← scan? after)
      | none => none
    else if c = '-' || c.isDigit then do
      let value ← numberOf? (c :: rest.takeWhile isNumeric)
      return .scalar value :: (← scan? (rest.dropWhile isNumeric))
    else if c.isLower then do
      let value ← wordOf? (c :: rest.takeWhile Char.isLower)
      return .scalar value :: (← scan? (rest.dropWhile Char.isLower))
    else do
      let mark ← Token.mark? c
      return mark :: (← scan? rest)
termination_by text => text.length
decreasing_by
  · simp
  · have := takeBody?_length _taken
    simp only [List.length_cons]
    omega
  · have := (List.dropWhile_suffix (l := rest) isNumeric).length_le
    simp only [List.length_cons]
    omega
  · have := (List.dropWhile_suffix (l := rest) Char.isLower).length_le
    simp only [List.length_cons]
    omega
  · simp

end FieldMap.Json
