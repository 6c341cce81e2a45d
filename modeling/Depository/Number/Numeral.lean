import Depository.Number.Basic
import Depository.Text.Blank
import Depository.Text.Hex

/-!
# Numerals

Two grammars of decimal numerals share their parts.

* `Numeral` — digits, an optional part after the point, and an exponent;
* `ofJsonNumeral?` — the strict grammar of JSON: no leading zero, no sign `+`, digits on both sides
  of the point;
* `ofText` — the lenient reading of a whole text: blanks around it are dropped, no digit at all is
  zero, a point may stand first or last, `0x`, `0o` and `0b` begin an unsigned numeral of another
  base, and any other text is no number.
-/

namespace Depository

namespace Number

/-- A decimal numeral without its sign. -/
structure Numeral where
  /-- The digits before the point. -/
  whole : List Char
  /-- The digits after the point, if there is a point. -/
  part : Option (List Char)
  /-- The exponent of ten. -/
  exponent : Int

/-- The value of decimal digits. -/
def digitsValue (ds : List Char) : Nat := ds.foldl (fun n d => n * 10 + (d.toNat - 48)) 0

/-- The value of digits of base `base`, if each character is one. -/
def digitsValue? (base : Nat) (ds : List Char) : Option Nat :=
  ds.foldlM (fun n d => do
    let v ← Text.Hex.digit? d
    if v < base then some (n * base + v) else none) 0

/-- A decimal digit. -/
def isDigit (c : Char) : Bool := '0' ≤ c && c ≤ '9'

/-- Decimal digits, at least one. -/
def areDigits (cs : List Char) : Bool := !cs.isEmpty && cs.all isDigit

/-- The exponent that ends a numeral: nothing, or `e` with an optional sign and digits. -/
def exponent? : List Char → Option Int
  | [] => some 0
  | c :: cs =>
    if c = 'e' ∨ c = 'E' then
      match cs with
      | '-' :: ds => if areDigits ds then some (-(digitsValue ds : Int)) else none
      | '+' :: ds => if areDigits ds then some (digitsValue ds) else none
      | ds => if areDigits ds then some (digitsValue ds) else none
    else none

/-- Splits a text into the parts of a numeral. -/
def Numeral.ofChars? (cs : List Char) : Option Numeral :=
  let whole := cs.takeWhile isDigit
  match cs.dropWhile isDigit with
  | '.' :: rest => do
    let exponent ← exponent? (rest.dropWhile isDigit)
    return ⟨whole, some (rest.takeWhile isDigit), exponent⟩
  | rest => do
    let exponent ← exponent? rest
    return ⟨whole, none, exponent⟩

/-- The number nearest to a numeral. -/
def Numeral.value (negative : Bool) (n : Numeral) : Number :=
  let part := n.part.getD []
  ofDecimal negative (digitsValue (n.whole ++ part)) (n.exponent - part.length)

/-- The numeral has a digit. -/
def Numeral.hasDigit (n : Numeral) : Bool := !n.whole.isEmpty || !(n.part.getD []).isEmpty

/-- The numeral is one of JSON. -/
def Numeral.isStrict (n : Numeral) : Bool :=
  (match n.whole with
    | [] => false
    | '0' :: _ :: _ => false
    | _ => true) &&
  n.part != some []

/-- The number of a numeral of JSON. -/
def ofJsonNumeral? (cs : List Char) : Option Number :=
  let (negative, rest) := match cs with
    | '-' :: rest => (true, rest)
    | rest => (false, rest)
  match Numeral.ofChars? rest with
  | some n => if n.isStrict then some (n.value negative) else none
  | none => none

/-- The number of an unsigned text, `Infinity` or a numeral. -/
def ofUnsigned (negative : Bool) (cs : List Char) : Number :=
  if cs = "Infinity".toList then infinite negative
  else
    match Numeral.ofChars? cs with
    | some n => if n.hasDigit then n.value negative else nan
    | none => nan

/-- The number of digits of another base, at least one. -/
def ofBase (base : Nat) (ds : List Char) : Number :=
  match ds, digitsValue? base ds with
  | _ :: _, some n => ofRatio false n 1
  | _, _ => nan

/-- The number that a whole text stands for. -/
def ofText (s : String) : Number :=
  match Text.strip Text.isBlank s.toList with
  | [] => integer 0
  | '-' :: rest => ofUnsigned true rest
  | '+' :: rest => ofUnsigned false rest
  | '0' :: c :: rest =>
    if c = 'x' ∨ c = 'X' then ofBase 16 rest
    else if c = 'o' ∨ c = 'O' then ofBase 8 rest
    else if c = 'b' ∨ c = 'B' then ofBase 2 rest
    else ofUnsigned false ('0' :: c :: rest)
  | cs => ofUnsigned false cs

end Number

end Depository
