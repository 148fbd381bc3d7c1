import FieldMap.Number.Decimal

/-!
# The shortest decimal of a number

`Binary64.shortest` gives the decimal with the fewest digits that reads back as a positive number,
and of those the nearest one. A decimal reads back when it lies in the interval of reals that
round to the number (`Interval`), ends included exactly if the mantissa is even. The grids of
powers of ten are tried from coarse to fine; on each one only the two neighbours of the number can
be the answer.
-/

namespace FieldMap

/-- Which of two decimals that are equally near is taken. -/
inductive Tie where
  | toEven
  | up
  deriving DecidableEq

/-- A decimal `coefficient * 10 ^ exponent`. -/
structure Decimal where
  coefficient : Nat
  exponent : Int
  deriving DecidableEq

/-- A positive number between the ends of the interval that rounds to it, all three in units of
`2 ^ exponent`. -/
structure Interval where
  low : Nat
  middle : Nat
  high : Nat
  exponent : Int
  closed : Bool

/-- The reals that round to `mantissa * 2 ^ exponent`. Below a power of two the neighbour is only
half as far away, except at the least exponent. -/
def Interval.around (mantissa : Nat) (exponent : Int) : Interval where
  low := if mantissa = Nat.pow 2 52 ∧ exponent ≠ -1074 then 4 * mantissa - 1 else 4 * mantissa - 2
  middle := 4 * mantissa
  high := 4 * mantissa + 2
  exponent := exponent - 2
  closed := mantissa % 2 == 0

/-- A point of the grid of `10 ^ grid` inside an interval, if the interval's middle has a neighbour
there: the nearer of the two if both lie inside. -/
def Interval.pointOnGrid? (tie : Tie) (i : Interval) (grid : Int) : Option Decimal :=
  let unit := Nat.pow 2 i.exponent.toNat * Nat.pow 10 (-grid).toNat
  let step := Nat.pow 2 (-i.exponent).toNat * Nat.pow 10 grid.toNat
  let below := i.middle * unit / step
  let inside (point : Nat) : Bool :=
    if i.closed then i.low * unit ≤ point * step && point * step ≤ i.high * unit
    else i.low * unit < point * step && point * step < i.high * unit
  let rest := i.middle * unit - below * step
  let nearer :=
    if 2 * rest < step then below
    else if step < 2 * rest then below + 1
    else match tie with
      | .toEven => if below % 2 = 0 then below else below + 1
      | .up => below + 1
  match inside below, inside (below + 1) with
  | true, true => some ⟨nearer, grid⟩
  | true, false => some ⟨below, grid⟩
  | false, true => some ⟨below + 1, grid⟩
  | false, false => none

/-- A power of ten above every point of the interval around `mantissa * 2 ^ exponent`. -/
def coarsestGrid (mantissa : Nat) (exponent : Int) : Int :=
  let bits : Int := mantissa.log2 + exponent + 2
  if 0 ≤ bits then bits * 31 / 100 + 1 else bits * 30 / 100 + 1

/-- The decimal with the fewest digits that reads back as `mantissa * 2 ^ exponent`. Seventeen
digits always suffice, and the search starts at most a dozen grids too coarse. -/
def shortest (tie : Tie) (mantissa : Nat) (exponent : Int) : Decimal :=
  let interval := Interval.around mantissa exponent
  let top := coarsestGrid mantissa exponent
  match (List.range 40).findSome? fun (k : Nat) => interval.pointOnGrid? tie (top - k) with
  | some decimal => decimal
  | none => ⟨0, 0⟩

end FieldMap
