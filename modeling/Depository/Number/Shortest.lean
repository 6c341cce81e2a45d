import Depository.Number.Basic

/-!
# The shortest decimal text of a number

A number is written with the fewest decimal digits that read back as it, and among those with the
nearest ones, of two with the even last digit.  The reals that round to a number
`significand · 2 ^ place` form an interval, whose ends belong to it when the significand is even.
For 1, 2, … 17 digits, the two neighbours of the number on the grid of that many digits are tried;
the first grid with one of them in the interval gives the digits.

The text is positional from `10 ^ -6` up to `10 ^ 21`, and has an exponent with a sign outside of
that range.

* `Interval` — the reals that round to a number;
* `shortest` — the digits and the decimal exponent;
* `Number.text` — the text.
-/

namespace Depository

namespace Number

/-- The reals that round to the number `middle / unit`: those from `low / unit` to `high / unit`,
with the ends where `closed` holds. -/
structure Interval where
  low : Nat
  middle : Nat
  high : Nat
  unit : Nat
  closed : Bool

/-- The interval of the positive number `num / 2 ^ k`. -/
def Interval.of (num k : Nat) : Interval :=
  let place := lastPlace num (Nat.pow 2 k)
  -- in quarters of the last place
  let significand := match place + k with
    | .ofNat up => num / Nat.pow 2 up
    | .negSucc down => num * Nat.pow 2 (down + 1)
  let middle := 4 * significand
  let low := if significand = Nat.pow 2 52 ∧ place ≠ -1074 then middle - 1 else middle - 2
  let high := middle + 2
  match place - 2 with
  | .ofNat up =>
    let f := Nat.pow 2 up
    ⟨low * f, middle * f, high * f, 1, significand % 2 == 0⟩
  | .negSucc down => ⟨low, middle, high, Nat.pow 2 (down + 1), significand % 2 == 0⟩

/-- The interval with every bound multiplied by `n`, or its unit for a negative exponent: seen from
a grid of step `10 ^ x`. -/
def Interval.onGrid (i : Interval) (x : Int) : Interval :=
  match x with
  | .ofNat up => { i with unit := i.unit * Nat.pow 10 up }
  | .negSucc down =>
    let f := Nat.pow 10 (down + 1)
    { i with low := i.low * f, middle := i.middle * f, high := i.high * f }

/-- The grid point `c` is in the interval. -/
def Interval.contains (i : Interval) (c : Nat) : Bool :=
  let v := c * i.unit
  if i.closed then i.low ≤ v && v ≤ i.high else i.low < v && v < i.high

/-- The grid point of the interval that is nearest to the number, if there is one; of two the even
one. -/
def Interval.pick? (i : Interval) : Option Nat :=
  let c := i.middle / i.unit
  let above := (c + 1) * i.unit - i.middle
  let below := i.middle - c * i.unit
  match i.contains c && c != 0, i.contains (c + 1) with
  | true, true =>
    if below < above ∨ (below = above ∧ c % 2 = 0) then some c else some (c + 1)
  | true, false => some c
  | false, true => some (c + 1)
  | false, false => none

/-- The number of decimal digits before the point of the middle of the interval; the count is
negative or zero when that is below one tenth, or below one. -/
def Interval.magnitude (i : Interval) : Int :=
  if i.unit ≤ i.middle then (Nat.toDigits 10 (i.middle / i.unit)).length
  else
    -- the least power of ten that lifts the number to one or more
    let q := (i.unit + i.middle - 1) / i.middle
    1 - ((Nat.toDigits 10 (q - 1)).length : Int)

/-- The first grid point found with `count` digits, one more, and so on for `fuel` grids. -/
def Interval.search (i : Interval) (magnitude : Int) : Nat → Nat → Nat × Int
  | 0, _ => (0, 0)
  | fuel + 1, count =>
    match (i.onGrid (magnitude - count)).pick? with
    | some c => (c, magnitude - count)
    | none => search i magnitude fuel (count + 1)

/-- The digits `c` and the exponent `x` of the shortest decimal `c · 10 ^ x` that reads back as the
positive number `num / 2 ^ k`. -/
def shortest (num k : Nat) : Nat × Int :=
  let i := Interval.of num k
  i.search i.magnitude 17 1

/-- A list of characters without the zeros at its end. -/
def withoutTrailingZeros (cs : List Char) : List Char := (cs.reverse.dropWhile (· == '0')).reverse

/-- The text of digits whose decimal point stands after `point` of them. -/
def layout (digits : List Char) (point : Int) : List Char :=
  let count : Int := digits.length
  if count ≤ point ∧ point ≤ 21 then
    digits ++ List.replicate (point - count).toNat '0'
  else if 0 < point ∧ point ≤ 21 then
    digits.take point.toNat ++ '.' :: digits.drop point.toNat
  else if -6 < point ∧ point ≤ 0 then
    '0' :: '.' :: List.replicate (-point).toNat '0' ++ digits
  else
    let exponent := point - 1
    let mantissa := match digits with
      | d :: e :: rest => d :: '.' :: e :: rest
      | ds => ds
    mantissa ++ 'e' :: (if exponent < 0 then '-' else '+') :: Nat.toDigits 10 exponent.natAbs

/-- The text of the number `num / 2 ^ k`, which is not negative. -/
def magnitudeText (num k : Nat) : List Char :=
  if num = 0 then ['0']
  else
    let (c, x) := shortest num k
    let all := Nat.toDigits 10 c
    layout (withoutTrailingZeros all) (all.length + x)

/-- The text of a number. -/
def text : Number → String
  | integer value =>
    let digits := magnitudeText value.natAbs 0
    String.ofList (if value < 0 then '-' :: digits else digits)
  | fraction half depth =>
    let num := 2 * half + 1
    let digits := magnitudeText num.natAbs (depth + 1)
    String.ofList (if num < 0 then '-' :: digits else digits)
  | infinite negative => if negative then "-Infinity" else "Infinity"
  | nan => "NaN"

end Number

end Depository
