import Depository.Number.Numeral

/-!
# Instants in text

An instant is a number of milliseconds since the start of 1970 in UTC.  Its text is a date, or a
date and a time of day:

* the year has four digits, or a sign and six (`-000000` is no year); the month and the day may be
  left out, and then are the first;
* the time has hours and minutes, and may have seconds and a fraction, of which milliseconds count;
  `24:00` is the end of the day, and nothing but zeros may follow it;
* a time may be followed by `Z` or by an offset, with or without a colon; without one it is in UTC.

Every month may have 31 days: a day beyond the end of its month is one of the next month.

* `Instant.parse?` — the instant of a text.
-/

namespace Depository

namespace Instant

/-- The value of exactly `n` digits and the text after them. -/
def digits? (n : Nat) (cs : List Char) : Option (Nat × List Char) :=
  let ds := cs.take n
  if ds.length = n ∧ ds.all Number.isDigit then some (Number.digitsValue ds, cs.drop n) else none

/-- The value of exactly `n` digits if it is between two bounds, and the text after them. -/
def bounded? (n low high : Nat) (cs : List Char) : Option (Nat × List Char) := do
  let (v, rest) ← digits? n cs
  if low ≤ v ∧ v ≤ high then some (v, rest) else none

/-- The year and the text after it. -/
def year? : List Char → Option (Int × List Char)
  | '+' :: cs => do
    let (v, rest) ← digits? 6 cs
    return (v, rest)
  | '-' :: cs => do
    let (v, rest) ← bounded? 6 1 999999 cs
    return (-(v : Int), rest)
  | cs => do
    let (v, rest) ← digits? 4 cs
    return (v, rest)

/-- The days from the start of 1970 to the first day of a month of a year.  The years are counted
from March, so that a leap day ends its year, in eras of 400 years. -/
def daysBeforeMonth (year : Int) (month : Nat) : Int :=
  let y := if month ≤ 2 then year - 1 else year
  let era := y.fdiv 400
  let yearOfEra := y - era * 400
  let m : Int := if month ≤ 2 then month + 9 else month - 3
  let dayOfYear := (153 * m + 2) / 5
  era * 146097 + yearOfEra * 365 + yearOfEra / 4 - yearOfEra / 100 + dayOfYear - 719468

/-- The day of a date, counted from the start of 1970. -/
def dayNumber (year : Int) (month day : Nat) : Int := daysBeforeMonth year month + (day - 1)

/-- The date that begins a text, as a day number, and the text after it. -/
def date? (cs : List Char) : Option (Int × List Char) := do
  let (year, rest) ← year? cs
  match rest with
  | '-' :: rest =>
    let (month, rest) ← bounded? 2 1 12 rest
    match rest with
    | '-' :: rest =>
      let (day, rest) ← bounded? 2 1 31 rest
      return (dayNumber year month day, rest)
    | rest => return (dayNumber year month 1, rest)
  | rest => return (dayNumber year 1 1, rest)

/-- The most digits of a fraction that count. -/
def fractionDigits : Nat := 9

/-- The milliseconds of the digits of a fraction of a second.  The number that counts has the first
nine digits from the first that is not zero on, and it is scaled by the number of all digits, of
which nine count; so the rounding is down, and zeros at the start count only up to nine digits. -/
def fractionValue (ds : List Char) : Nat :=
  let value := Number.digitsValue ((ds.dropWhile (· == '0')).take fractionDigits)
  let length := min ds.length fractionDigits
  if length ≤ 3 then value * Nat.pow 10 (3 - length) else value / Nat.pow 10 (length - 3)

/-- What follows the minutes of a time. -/
structure Fine where
  milliseconds : Nat
  /-- All of its digits are zeros. -/
  isZero : Bool

/-- The seconds and their fraction that may follow the minutes, and the text after them. -/
def fine? : List Char → Option (Fine × List Char)
  | ':' :: cs => do
    let (seconds, rest) ← bounded? 2 0 59 cs
    match rest with
    | '.' :: rest =>
      match rest.takeWhile Number.isDigit with
      | [] => none
      | ds =>
        return (⟨seconds * 1000 + fractionValue ds, seconds == 0 && ds.all (· == '0')⟩,
          rest.dropWhile Number.isDigit)
    | rest => return (⟨seconds * 1000, seconds == 0⟩, rest)
  | cs => some (⟨0, true⟩, cs)

/-- The time of day that begins a text, in milliseconds, and the text after it. -/
def time? (cs : List Char) : Option (Nat × List Char) := do
  let (hours, rest) ← bounded? 2 0 24 cs
  match rest with
  | ':' :: rest =>
    let (minutes, rest) ← bounded? 2 0 59 rest
    let (fine, rest) ← fine? rest
    if hours = 24 ∧ ¬(minutes = 0 ∧ fine.isZero) then none
    else return ((hours * 60 + minutes) * 60000 + fine.milliseconds, rest)
  | _ => none

/-- The minutes of an offset, which is the whole text. -/
def offset? : List Char → Option Int
  | [] => some 0
  | ['Z'] => some 0
  | ['z'] => some 0
  | sign :: cs =>
    if sign = '+' ∨ sign = '-' then do
      let (hours, rest) ← bounded? 2 0 23 cs
      let rest := match rest with
        | ':' :: rest => rest
        | rest => rest
      let (minutes, rest) ← bounded? 2 0 59 rest
      let value : Int := hours * 60 + minutes
      if rest = [] then some (if sign = '-' then -value else value) else none
    else none

/-- The milliseconds of a day. -/
def dayLength : Int := 86400000

/-- The greatest distance from the start of 1970. -/
def limit : Nat := 8640000000000000

/-- The milliseconds that a time of day and its offset add to a date; none are added without a
time. -/
def afterDate? : List Char → Option Int
  | [] => some 0
  | c :: cs =>
    if c = 'T' ∨ c = 't' then do
      let (time, rest) ← time? cs
      let offset ← offset? rest
      return time - offset * 60000
    else none

/-- An instant within the limit. -/
def within? (value : Int) : Option Int := if value.natAbs ≤ limit then some value else none

/-- The instant of a text. -/
def parse? (s : String) : Option Int := do
  let (day, rest) ← date? s.toList
  let time ← afterDate? rest
  within? (day * dayLength + time)

end Instant

end Depository
