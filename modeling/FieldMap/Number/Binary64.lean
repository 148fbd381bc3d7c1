/-!
# Binary floating-point numbers

The numbers of 64-bit binary floating point, each finite one held as a mantissa and an exponent in
the one form the format has for it, so that every operation is exact integer arithmetic followed by
one rounding. `ofRatio` rounds a quotient to the nearest number, a half to the even neighbour;
sums of digits, integers and products reach the type only through it. Comparisons bring both sides
to a common exponent (`unitsAt`) and compare integers.
-/

namespace FieldMap

/-- The mantissa and exponent of `mantissa * 2 ^ exponent` are those of the format: at most 53
bits, and exactly 53 unless the exponent is the least one. -/
def Binary64.Canonical (mantissa : Nat) (exponent : Int) : Prop :=
  mantissa < Nat.pow 2 53 ∧ -1074 ≤ exponent ∧ exponent ≤ 971 ∧
    (Nat.pow 2 52 ≤ mantissa ∨ exponent = -1074)

instance (mantissa : Nat) (exponent : Int) : Decidable (Binary64.Canonical mantissa exponent) :=
  inferInstanceAs (Decidable (_ ∧ _ ∧ _ ∧ _))

/-- A 64-bit binary floating-point number; all texts that are no number are one value. -/
inductive Binary64 where
  | finite (negative : Bool) (mantissa : Nat) (exponent : Int)
      (canonical : Binary64.Canonical mantissa exponent)
  | infinite (negative : Bool)
  | nan
  deriving DecidableEq

namespace Binary64

/-! ## Rounding -/

/-- Zero, which has two signs. -/
def zero (negative : Bool) : Binary64 :=
  .finite negative 0 (-1074) (by decide)

/-- `num / den` to the nearest integer, a half to the even neighbour. -/
def roundQuotient (num den : Nat) : Nat :=
  let quotient := num / den
  let rest := num % den
  if 2 * rest < den then quotient
  else if den < 2 * rest then quotient + 1
  else if quotient % 2 = 0 then quotient else quotient + 1

/-- `num / den / 2 ^ exponent` as a numerator and a denominator. -/
def scaleRatio (num den : Nat) (exponent : Int) : Nat × Nat :=
  (num * Nat.pow 2 (-exponent).toNat, den * Nat.pow 2 exponent.toNat)

/-- The exponent at which `num / den` has 53 bits before the point, or the least exponent. -/
def exponentOf (num den : Nat) : Int :=
  let low : Int := (num.log2 : Int) - den.log2 - 53
  let scaled := scaleRatio num den low
  max (-1074) (if scaled.1 / scaled.2 < Nat.pow 2 53 then low else low + 1)

/-- `mantissa * 2 ^ exponent` with a sign; infinite when it is beyond the greatest number. -/
def ofParts (negative : Bool) (mantissa : Nat) (exponent : Int) : Binary64 :=
  if h : Canonical mantissa exponent then .finite negative mantissa exponent h
  else .infinite negative

/-- The number nearest to `num / den`, a half to the one with the even mantissa. -/
def ofRatio (negative : Bool) (num den : Nat) : Binary64 :=
  if num = 0 ∨ den = 0 then zero negative
  else
    let exponent := exponentOf num den
    let scaled := scaleRatio num den exponent
    let mantissa := roundQuotient scaled.1 scaled.2
    if mantissa = Nat.pow 2 53 then ofParts negative (Nat.pow 2 52) (exponent + 1)
    else ofParts negative mantissa exponent

/-- The number nearest to an integer. -/
def ofInt (n : Int) : Binary64 :=
  ofRatio (decide (n < 0)) n.natAbs 1

/-! ## Exact value -/

/-- A mantissa with its sign, counted in units of `2 ^ unit`, which is not above `exponent`. -/
def unitsAt (negative : Bool) (mantissa : Nat) (exponent unit : Int) : Int :=
  let units : Int := mantissa * Nat.pow 2 (exponent - unit).toNat
  if negative then -units else units

/-- Whether it is neither infinite nor `nan`. -/
def isFinite : Binary64 → Bool
  | .finite .. => true
  | _ => false

/-- Whether it is one of the two zeros. -/
def isZero : Binary64 → Bool
  | .finite _ mantissa _ _ => mantissa = 0
  | _ => false

/-- Whether `x` is below `y`; never with `nan`. -/
def lt : Binary64 → Binary64 → Bool
  | .nan, _ | _, .nan => false
  | .infinite negative, .infinite negative' => negative && !negative'
  | .infinite negative, .finite .. => negative
  | .finite .., .infinite negative => !negative
  | .finite s m e _, .finite s' m' e' _ =>
    unitsAt s m e (min e e') < unitsAt s' m' e' (min e e')

/-- Whether `x` and `y` are the same number: the two zeros are, `nan` is not even itself. -/
def eq : Binary64 → Binary64 → Bool
  | .infinite negative, .infinite negative' => negative == negative'
  | .finite s m e _, .finite s' m' e' _ =>
    unitsAt s m e (min e e') = unitsAt s' m' e' (min e e')
  | _, _ => false

instance : BEq Binary64 where
  beq := eq

/-- Whether `x` is at most `y`; never with `nan`. -/
def le (x y : Binary64) : Bool :=
  x.lt y || x == y

/-! ## Arithmetic -/

/-- The number with the other sign. -/
def neg : Binary64 → Binary64
  | .finite negative m e h => .finite (!negative) m e h
  | .infinite negative => .infinite (!negative)
  | .nan => .nan

/-- The magnitude of a finite number as a ratio; of another one, zero. -/
def magnitude : Binary64 → Nat × Nat
  | .finite _ m e _ => (m * Nat.pow 2 e.toNat, Nat.pow 2 (-e).toNat)
  | _ => (0, 1)

/-- Whether the sign is negative. -/
def isNegative : Binary64 → Bool
  | .finite negative .. | .infinite negative => negative
  | .nan => false

/-- The product of two finite numbers, rounded. -/
def mul (x y : Binary64) : Binary64 :=
  ofRatio (x.isNegative != y.isNegative) (x.magnitude.1 * y.magnitude.1)
    (x.magnitude.2 * y.magnitude.2)

/-- The quotient of two finite numbers, rounded; the divisor is not zero. -/
def div (x y : Binary64) : Binary64 :=
  ofRatio (x.isNegative != y.isNegative) (x.magnitude.1 * y.magnitude.2)
    (x.magnitude.2 * y.magnitude.1)

/-- The difference of two numbers, rounded. Two infinities of one sign have none, and equal numbers
have the positive zero, but for the negative zero less the positive one. -/
def sub : Binary64 → Binary64 → Binary64
  | .nan, _ | _, .nan => .nan
  | .infinite negative, .infinite negative' =>
    if negative = negative' then .nan else .infinite negative
  | .infinite negative, .finite .. => .infinite negative
  | .finite .., .infinite negative => .infinite !negative
  | .finite s m e _, .finite s' m' e' _ =>
    let unit := min e e'
    let units := unitsAt s m e unit - unitsAt s' m' e' unit
    if units = 0 then zero (s && !s')
    else ofRatio (decide (units < 0)) (units.natAbs * Nat.pow 2 unit.toNat)
      (Nat.pow 2 (-unit).toNat)

/-! ## Whole numbers -/

/-- The magnitude of a finite number without what is behind the point; of another one, zero. -/
def wholePart (x : Binary64) : Nat :=
  x.magnitude.1 / x.magnitude.2

/-- A finite number without what is behind the point; all others are left as they are. -/
def trunc : Binary64 → Binary64
  | .finite negative m e h => ofRatio negative (wholePart (.finite negative m e h)) 1
  | x => x

/-- What a number has behind the point; `nan` if it is infinite. -/
def fract (x : Binary64) : Binary64 :=
  x.sub x.trunc

/-- A number as an integer of 64 bits with a sign: without what is behind the point, and the last
such integer on its side if it is beyond them. What is no number becomes zero. -/
def toInt64 : Binary64 → Int
  | .nan => 0
  | .infinite negative => if negative then -Nat.pow 2 63 else Nat.pow 2 63 - 1
  | .finite negative m e h =>
    let whole : Int := wholePart (.finite negative m e h)
    max (-Nat.pow 2 63) (min (Nat.pow 2 63 - 1) (if negative then -whole else whole))

end Binary64

end FieldMap
