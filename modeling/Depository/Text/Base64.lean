import Depository.Text.Units
import Depository.Text.Utf8

/-!
# Base64

* `encode` — the standard alphabet, padded with `=` to a multiple of four characters;
* `decode` — a lenient reader: the standard and the URL-safe digits count, `=` ends the text, every
  other character is skipped, and bits that fill no byte are dropped.  A character above U+00FF
  counts as the characters that the low bytes of its sixteen-bit units stand for.
-/

namespace Depository

namespace Text

namespace Base64

/-- The digit of a value below 64. -/
def digit (n : Nat) : Char :=
  if n < 26 then Char.ofNat (65 + n)
  else if n < 52 then Char.ofNat (71 + n)
  else if n < 62 then Char.ofNat (n - 4)
  else if n = 62 then '+'
  else '/'

/-- The value of a digit of the standard or the URL-safe alphabet. -/
def value? (c : Char) : Option Nat :=
  if 'A' ≤ c ∧ c ≤ 'Z' then some (c.toNat - 65)
  else if 'a' ≤ c ∧ c ≤ 'z' then some (c.toNat - 71)
  else if '0' ≤ c ∧ c ≤ '9' then some (c.toNat + 4)
  else if c = '+' ∨ c = '-' then some 62
  else if c = '/' ∨ c = '_' then some 63
  else none

/-- The values of six bits of the bytes, in order; the last one is filled with zero bits. -/
def sextets : Bytes → List Nat
  | [] => []
  | [a] => [a.toNat / 4, a.toNat % 4 * 16]
  | [a, b] => [a.toNat / 4, a.toNat % 4 * 16 + b.toNat / 16, b.toNat % 16 * 4]
  | a :: b :: c :: rest =>
    a.toNat / 4 :: (a.toNat % 4 * 16 + b.toNat / 16) :: (b.toNat % 16 * 4 + c.toNat / 64) ::
      c.toNat % 64 :: sextets rest

/-- The bytes of values of six bits; bits that fill no byte are dropped. -/
def ofSextets : List Nat → Bytes
  | w :: x :: y :: z :: rest =>
    (w * 4 + x / 16).toUInt8 :: (x % 16 * 16 + y / 4).toUInt8 :: (y % 4 * 64 + z).toUInt8 ::
      ofSextets rest
  | [w, x, y] => [(w * 4 + x / 16).toUInt8, (x % 16 * 16 + y / 4).toUInt8]
  | [w, x] => [(w * 4 + x / 16).toUInt8]
  | _ => []

/-- The padding of an encoding of `n` bytes. -/
def padding (n : Nat) : List Char := List.replicate ((3 - n % 3) % 3) '='

/-- The digits of the bytes, without padding. -/
def encodeUnpadded (bs : Bytes) : String := String.ofList ((sextets bs).map digit)

/-- The padded encoding of the bytes. -/
def encode (bs : Bytes) : String :=
  String.ofList ((sextets bs).map digit ++ padding bs.length)

/-- The bytes of the digits before the first `=`. -/
def decode (s : String) : Bytes :=
  ofSextets (((lowChars s).takeWhile (· ≠ '=')).filterMap value?)

end Base64

end Text

end Depository
