import FieldMap.Number.Binary64

/-!
# Reading decimal texts

`Binary64.ofDecimal` is the number nearest to `digits * 10 ^ exponent`. `Binary64.ofText?` reads
the usual written form: a sign, digits with an optional point, an optional power of ten, or one of
the words for infinity and for no number.
-/

namespace FieldMap

/-- The value of a list of decimal digits. -/
def digitsValue (digits : List Char) : Nat :=
  digits.foldl (fun n c => 10 * n + (c.toNat - '0'.toNat)) 0

/-- The number nearest to `digits * 10 ^ exponent`. Exponents so far out that every such value is
infinite or zero are decided without computing the power. -/
def Binary64.ofDecimal (negative : Bool) (digits : Nat) (exponent : Int) : Binary64 :=
  if digits = 0 then .zero negative
  else
    let leading : Int := (Nat.toDigits 10 digits).length + exponent
    if 310 < leading then .infinite negative
    else if leading < -330 then .zero negative
    else .ofRatio negative (digits * Nat.pow 10 exponent.toNat) (Nat.pow 10 (-exponent).toNat)

/-- The sign in front of a number, and what follows it. -/
def takeSign : List Char → Bool × List Char
  | '-' :: rest => (true, rest)
  | '+' :: rest => (false, rest)
  | rest => (false, rest)

/-- A power of ten after a mantissa: nothing, or an `e` with an integer. -/
def readExponent? : List Char → Option Int
  | [] => some 0
  | c :: rest =>
    if c = 'e' ∨ c = 'E' then
      let (negative, digits) := takeSign rest
      if digits.isEmpty || !digits.all Char.isDigit then none
      else some (if negative then -(digitsValue digits : Int) else digitsValue digits)
    else none

/-- Digits, with a point among, before or after them, and a power of ten. -/
def Binary64.ofDigits? (negative : Bool) (text : List Char) : Option Binary64 := do
  let whole := text.takeWhile Char.isDigit
  let rest := text.dropWhile Char.isDigit
  let (fraction, rest) := match rest with
    | '.' :: rest => (rest.takeWhile Char.isDigit, rest.dropWhile Char.isDigit)
    | rest => ([], rest)
  guard !(whole.isEmpty && fraction.isEmpty)
  let power ← readExponent? rest
  return .ofDecimal negative (digitsValue (whole ++ fraction)) (power - fraction.length)

/-- The number a text stands for. The words are read in any letter case. -/
def Binary64.ofText? (s : String) : Option Binary64 :=
  let (negative, text) := takeSign s.toList
  match String.ofList (text.map Char.toLower) with
  | "inf" | "infinity" => some (.infinite negative)
  | "nan" => some .nan
  | _ => ofDigits? negative text

end FieldMap
