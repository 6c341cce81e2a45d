/-!
# Numbers

The numbers of configuration files and of JSON are binary floating-point numbers of 64 bits.  A
finite one is an integer or a dyadic fraction, and it is kept as what it is worth, so that two
equal numbers are the same term (there is one zero).

* `Number` — the type, and `Number.isBelow` — its order;
* `Number.ofDyadic` — the number `m · 2 ^ e`;
* `Number.ofRatio` — the number nearest to a quotient, as a 64-bit format rounds it.
-/

namespace Depository

/-- A number of the 64-bit binary format. -/
inductive Number where
  /-- An integer. -/
  | integer (value : Int)
  /-- The fraction `(2 * half + 1) / 2 ^ (depth + 1)`, in lowest terms by its form. -/
  | fraction (half : Int) (depth : Nat)
  /-- An infinity. -/
  | infinite (negative : Bool)
  /-- No number. -/
  | nan
  deriving DecidableEq, Repr, Inhabited

namespace Number

/-- The value of an integer. -/
def toInt? : Number → Option Int
  | integer value => some value
  | _ => none

/-- The number is above zero. -/
def isPositive : Number → Bool
  | integer value => 0 < value
  | fraction half _ => 0 ≤ half
  | infinite negative => !negative
  | nan => false

/-- The number is above an integer. -/
def isAbove (bound : Int) : Number → Bool
  | integer value => bound < value
  | fraction half depth => bound * Nat.pow 2 (depth + 1) < 2 * half + 1
  | infinite negative => !negative
  | nan => false

/-- The numerator and the denominator of a finite number. -/
def ratio? : Number → Option (Int × Nat)
  | integer value => some (value, 1)
  | fraction half depth => some (2 * half + 1, Nat.pow 2 (depth + 1))
  | infinite _ | nan => none

/-- One number is below another one; what is no number is below nothing, and nothing is below it. -/
def isBelow (x y : Number) : Bool :=
  match x.ratio?, y.ratio? with
  | some (a, b), some (c, d) => a * d < c * b
  | some _, none => y == infinite false
  | none, some _ => x == infinite true
  | none, none => x == infinite true && y == infinite false

/-! ### Rounding -/

/-- `n`, or `-n` where `negative` holds. -/
def signed (negative : Bool) (n : Nat) : Int := if negative then -n else n

/-- The number `m / 2 ^ k`, with its sign. -/
def ofHalvings (negative : Bool) : Nat → Nat → Number
  | m, 0 => integer (signed negative m)
  | m, k + 1 =>
    if m % 2 = 0 then ofHalvings negative (m / 2) k
    else fraction (if negative then -(m / 2 : Nat) - 1 else (m / 2 : Nat)) k

/-- The number `m · 2 ^ e` with its sign, or an infinity from `2 ^ 1024` on. -/
def ofDyadic (negative : Bool) (m : Nat) (e : Int) : Number :=
  match e with
  | .ofNat k =>
    let n := m * Nat.pow 2 k
    if n < Nat.pow 2 1024 then integer (signed negative n) else infinite negative
  | .negSucc k => ofHalvings negative m (k + 1)

/-- The integer nearest to `num / den`, of two the even one. -/
def roundHalfEven (num den : Nat) : Nat :=
  let q := num / den
  let r := num % den
  if 2 * r < den ∨ (2 * r = den ∧ q % 2 = 0) then q else q + 1

/-- The exponent of the last place of a 53-bit significand of `num / den`, not below the last place
of the subnormal numbers. -/
def lastPlace (num den : Nat) : Int :=
  let e : Int := (num.log2 : Int) - den.log2 - 52
  let below : Bool := match e with
    | .ofNat k => num < den * Nat.pow 2 (k + 52)
    | .negSucc k => num * Nat.pow 2 (k + 1) < den * Nat.pow 2 52
  max (if below then e - 1 else e) (-1074)

/-- The number nearest to `num / den`, with its sign. -/
def ofRatio (negative : Bool) (num den : Nat) : Number :=
  if num = 0 then integer 0
  else
    let e := lastPlace num den
    let significand := match e with
      | .ofNat k => roundHalfEven num (den * Nat.pow 2 k)
      | .negSucc k => roundHalfEven (num * Nat.pow 2 (k + 1)) den
    ofDyadic negative significand e

/-- The number nearest to `m · 10 ^ x`, with its sign.  Beyond ten to the power 400 either way the
outcome is an infinity or zero whatever the digits are. -/
def ofDecimal (negative : Bool) (m : Nat) (x : Int) : Number :=
  if m = 0 then integer 0
  else
    let magnitude := (Nat.toDigits 10 m).length + x
    if 400 < magnitude then infinite negative
    else if magnitude < -400 then integer 0
    else match x with
      | .ofNat k => ofRatio negative (m * Nat.pow 10 k) 1
      | .negSucc k => ofRatio negative m (Nat.pow 10 (k + 1))

/-- The number nearest to an integer. -/
def ofInt (i : Int) : Number := ofRatio (i < 0) i.natAbs 1

end Number

end Depository
