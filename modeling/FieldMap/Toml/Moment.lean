import FieldMap.Calendar
import FieldMap.Number.Decimal

/-!
# Dates and times in TOML

`moment?` reads a date, a time of day or both, with or without an offset, and gives its normal
written form: a `T` between date and time, at most nine decimals of a second without trailing
zeros, and `Z` or a signed offset. Hours and offsets are bounded by `MomentLimits`, which are
narrower for a moment that stands for itself in a document than for one in a text.
-/

namespace FieldMap.Toml

/-- The greatest hour and the greatest offset of a moment: its hours, its minutes, and how many
minutes it makes in all. -/
structure MomentLimits where
  lastHour : Nat
  lastOffsetHour : Nat
  lastOffsetMinute : Nat
  longestOffset : Nat

/-- The limits of moments in documents: hours of a day and minutes of an hour. -/
def MomentLimits.bare : MomentLimits where
  lastHour := 23
  lastOffsetHour := 23
  lastOffsetMinute := 59
  longestOffset := 23 * 60 + 59

/-- The limits of moments in texts: a day may end at hour 24, and an offset may be any two numbers
of two digits that make no more than a day. -/
def MomentLimits.quoted : MomentLimits where
  lastHour := 24
  lastOffsetHour := 99
  lastOffsetMinute := 99
  longestOffset := 24 * 60

/-- The value of exactly `width` digits at the front, and what follows them. -/
def takeDigits? (width : Nat) (text : List Char) : Option (Nat × List Char) :=
  let digits := text.take width
  if digits.length = width ∧ digits.all Char.isDigit then
    some (digitsValue digits, text.drop width)
  else none

/-- A date at the front, as it is written, and what follows it. -/
def takeDate? (text : List Char) : Option (List Char × List Char) := do
  let (year, rest) ← takeDigits? 4 text
  let '-' :: rest := rest | none
  let (month, rest) ← takeDigits? 2 rest
  let '-' :: rest := rest | none
  let (day, rest) ← takeDigits? 2 rest
  guard (1 ≤ month && month ≤ 12 && 1 ≤ day && day ≤ daysInMonth year month)
  return (text.take 10, rest)

/-- The decimals of a second in normal form: at most nine, without trailing zeros. -/
def normalFraction (digits : List Char) : List Char :=
  match ((digits.take 9).reverse.dropWhile (· = '0')).reverse with
  | [] => []
  | kept => '.' :: kept

/-- A time of day at the front in normal form, and what follows it. -/
def takeTime? (limits : MomentLimits) (text : List Char) : Option (List Char × List Char) := do
  let (hour, rest) ← takeDigits? 2 text
  let ':' :: rest := rest | none
  let (minute, rest) ← takeDigits? 2 rest
  let ':' :: rest := rest | none
  let (second, rest) ← takeDigits? 2 rest
  guard (hour ≤ limits.lastHour && minute < 60 && second ≤ 60)
  match rest with
  | '.' :: rest =>
    let digits := rest.takeWhile Char.isDigit
    guard !digits.isEmpty
    return (text.take 8 ++ normalFraction digits, rest.dropWhile Char.isDigit)
  | rest => return (text.take 8, rest)

/-- The two decimal digits of a number below one hundred. -/
def twoDigits (n : Nat) : List Char :=
  [Nat.digitChar (n / 10), Nat.digitChar (n % 10)]

/-- An offset from universal time in normal form: whole hours and less than an hour of minutes,
with a plus sign before zero. -/
def offset? (limits : MomentLimits) : List Char → Option (List Char)
  | ['Z'] | ['z'] => some ['Z']
  | sign :: text => do
    guard (sign = '+' || sign = '-')
    let (hour, rest) ← takeDigits? 2 text
    let ':' :: rest := rest | none
    let (minute, []) ← takeDigits? 2 rest | none
    guard (hour ≤ limits.lastOffsetHour && minute ≤ limits.lastOffsetMinute)
    let total := 60 * hour + minute
    guard (total ≤ limits.longestOffset)
    return (if total = 0 then '+' else sign) ::
      (twoDigits (total / 60) ++ ':' :: twoDigits (total % 60))
  | [] => none

/-- The normal form of a date, of a time, or of both with an optional offset. -/
def moment? (limits : MomentLimits) (text : List Char) : Option String :=
  match takeDate? text with
  | some (date, []) => some (String.ofList date)
  | some (date, separator :: rest) => do
    guard (separator = 'T' || separator = 't' || separator = ' ')
    let (time, rest) ← takeTime? limits rest
    let offset ← if rest.isEmpty then some [] else offset? limits rest
    return String.ofList (date ++ 'T' :: time ++ offset)
  | none => do
    let (time, []) ← takeTime? limits text | none
    return String.ofList time

end FieldMap.Toml
