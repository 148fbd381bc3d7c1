/-!
# Dates and times of day

Dates of the proleptic Gregorian calendar and times of day to the nanosecond, without time zone.
A leap second counts on within the last second of its minute: its nanoseconds go up to two
thousand million.
-/

namespace FieldMap

/-- The days of a month. -/
def daysInMonth (year : Int) (month : Nat) : Nat :=
  if month = 2 then
    if year % 4 = 0 ∧ (year % 100 ≠ 0 ∨ year % 400 = 0) then 29 else 28
  else if month = 4 ∨ month = 6 ∨ month = 9 ∨ month = 11 then 30
  else 31

/-- A date. -/
structure Date where
  year : Int
  month : Nat
  day : Nat
  deriving DecidableEq

/-- A time of day. -/
structure TimeOfDay where
  hour : Nat
  minute : Nat
  second : Nat
  nanosecond : Nat
  deriving DecidableEq

/-- Decimal digits of a number, at least `width` of them. -/
def paddedDigits (width n : Nat) : String :=
  let digits := Nat.toDigits 10 n
  String.ofList (List.replicate (width - digits.length) '0' ++ digits)

namespace Date

/-- The date of a year, a month and a day that exist; years are those of 262 thousand years either
side of year zero. -/
def ofParts? (year : Int) (month day : Nat) : Option Date :=
  if -262143 ≤ year ∧ year ≤ 262142 ∧ 1 ≤ month ∧ month ≤ 12 ∧ 1 ≤ day ∧
      day ≤ daysInMonth year month then
    some ⟨year, month, day⟩
  else none

/-- Year, month and day with hyphens. A year of other than four digits has a sign. -/
def display (d : Date) : String :=
  let sign := if d.year < 0 then "-" else if 9999 < d.year then "+" else ""
  sign ++ paddedDigits 4 d.year.natAbs ++ "-" ++ paddedDigits 2 d.month ++ "-" ++
    paddedDigits 2 d.day

end Date

namespace TimeOfDay

/-- The time of a day that has it; a leap second comes only after a last second. -/
def ofParts? (hour minute second nanosecond : Nat) : Option TimeOfDay :=
  if hour < 24 ∧ minute < 60 ∧ second < 60 ∧
      (nanosecond < 1000000000 ∨ (second = 59 ∧ nanosecond < 2000000000)) then
    some ⟨hour, minute, second, nanosecond⟩
  else none

/-- The decimals of a second: none, or three, six or nine of them, as few as are exact. -/
def fraction (nanosecond : Nat) : String :=
  if nanosecond = 0 then ""
  else if nanosecond % 1000000 = 0 then "." ++ paddedDigits 3 (nanosecond / 1000000)
  else if nanosecond % 1000 = 0 then "." ++ paddedDigits 6 (nanosecond / 1000)
  else "." ++ paddedDigits 9 nanosecond

/-- Hour, minute and second with colons; a leap second is shown as second 60. -/
def display (t : TimeOfDay) : String :=
  let leap := t.nanosecond / 1000000000
  paddedDigits 2 t.hour ++ ":" ++ paddedDigits 2 t.minute ++ ":" ++
    paddedDigits 2 (t.second + leap) ++ fraction (t.nanosecond % 1000000000)

end TimeOfDay

end FieldMap
