import FieldMap.Number.Shortest

/-!
# Written numbers

How the shortest decimal of a number is laid out. A `Layout` holds every decision of a written
form; the two in use are `plainLayout`, which messages and displayed values have, and
`jsonLayout`, which numbers in documents have.
-/

namespace FieldMap

/-- The decisions of a written form of numbers. -/
structure Layout where
  /-- Which of two equally near shortest decimals is taken. -/
  tie : Tie
  /-- The powers of ten of the first digit that are written with a point at its place; the other
  ones are written with an exponent. `none` if every number is written with a point. -/
  positional : Option (Int × Int)
  /-- Whether a whole number keeps a point and a zero. -/
  keepsPoint : Bool

/-- Every number in full, whole ones without a point; a tie goes to the greater decimal. -/
def plainLayout : Layout :=
  ⟨.up, none, false⟩

/-- From `10 ^ -5` to below `10 ^ 16` in full and with a point, else with an exponent; a tie goes
to the even digit. -/
def jsonLayout : Layout :=
  ⟨.toEven, some (-5, 15), true⟩

/-- Digits with the point `scale` places from the right end. -/
def Layout.positionalDigits (layout : Layout) (digits : List Char) (exponent : Int) : List Char :=
  if 0 ≤ exponent then
    digits ++ List.replicate exponent.toNat '0' ++ (if layout.keepsPoint then ['.', '0'] else [])
  else
    let places := (-exponent).toNat
    let padded := List.replicate (places + 1 - digits.length) '0' ++ digits
    padded.take (padded.length - places) ++ '.' :: padded.drop (padded.length - places)

/-- One digit, the others behind a point, and the power of ten of the first digit. -/
def Layout.scientificDigits (digits : List Char) (power : Int) : List Char :=
  let mantissa := match digits with
    | first :: second :: rest => first :: '.' :: second :: rest
    | few => few
  mantissa ++ 'e' :: (if power < 0 then '-' else '+') :: Nat.toDigits 10 power.natAbs

/-- A finite magnitude in a written form. -/
def Layout.magnitude (layout : Layout) (mantissa : Nat) (exponent : Int) : List Char :=
  if mantissa = 0 then layout.positionalDigits ['0'] 0
  else
    let decimal := shortest layout.tie mantissa exponent
    let digits := Nat.toDigits 10 decimal.coefficient
    let power := decimal.exponent + digits.length - 1
    match layout.positional with
    | none => layout.positionalDigits digits decimal.exponent
    | some (least, greatest) =>
      if least ≤ power ∧ power ≤ greatest then layout.positionalDigits digits decimal.exponent
      else scientificDigits digits power

/-- A number in a written form. -/
def Layout.write (layout : Layout) : Binary64 → String
  | .nan => "NaN"
  | .infinite negative => if negative then "-inf" else "inf"
  | .finite negative mantissa exponent _ =>
    let digits := layout.magnitude mantissa exponent
    String.ofList (if negative then '-' :: digits else digits)

/-- The number as messages and displayed values show it. -/
def Binary64.display (x : Binary64) : String :=
  plainLayout.write x

end FieldMap
