import Depository.Text.Units
import Depository.Text.Utf8

/-!
# Hexadecimal text

* `digit?` — the value of a hexadecimal digit of either case;
* `encode` — two lower-case digits per byte;
* `decode` — the bytes of the leading pairs of digits.  Of each sixteen-bit unit of the text the low
  byte is read.
-/

namespace Depository

namespace Text

namespace Hex

/-- The value of a hexadecimal digit of either case. -/
def digit? (c : Char) : Option Nat :=
  if '0' ≤ c ∧ c ≤ '9' then some (c.toNat - 48)
  else if 'a' ≤ c ∧ c ≤ 'f' then some (c.toNat - 87)
  else if 'A' ≤ c ∧ c ≤ 'F' then some (c.toNat - 55)
  else none

/-- The digits of a byte. -/
def encodeByte (b : UInt8) : List Char :=
  [Nat.digitChar (b.toNat / 16), Nat.digitChar (b.toNat % 16)]

/-- Two lower-case digits for each byte. -/
def encode (bs : Bytes) : String := String.ofList (bs.flatMap encodeByte)

/-- The bytes of the pairs of digits before the first pair that is not one. -/
def decodeChars : List Char → Bytes
  | a :: b :: rest =>
    match digit? a, digit? b with
    | some x, some y => (x * 16 + y).toUInt8 :: decodeChars rest
    | _, _ => []
  | _ => []

/-- The bytes of a text of hexadecimal digits. -/
def decode (s : String) : Bytes := decodeChars (lowChars s)

end Hex

end Text

end Depository
