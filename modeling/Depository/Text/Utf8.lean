/-!
# UTF-8

* `encode` — the bytes of a text;
* `decode` — the text of any bytes.  Bytes that begin no character are not refused: each maximal
  part of an unfinished or forbidden sequence reads as one U+FFFD.

The decoder is a machine that takes one byte at a time.  Between two bytes it either is at a
boundary of characters or expects continuation bytes, the next of them within a range that rules
out overlong forms, surrogates and values above U+10FFFF.
-/

namespace Depository

/-- A string of bytes. -/
abbrev Bytes := List UInt8

namespace Text

namespace Utf8

/-- The bytes of a character. -/
def encodeChar (c : Char) : Bytes :=
  let n := c.toNat
  if n < 0x80 then [n.toUInt8]
  else if n < 0x800 then [(0xC0 + n / 0x40).toUInt8, (0x80 + n % 0x40).toUInt8]
  else if n < 0x10000 then
    [(0xE0 + n / 0x1000).toUInt8, (0x80 + n / 0x40 % 0x40).toUInt8, (0x80 + n % 0x40).toUInt8]
  else
    [(0xF0 + n / 0x40000).toUInt8, (0x80 + n / 0x1000 % 0x40).toUInt8,
      (0x80 + n / 0x40 % 0x40).toUInt8, (0x80 + n % 0x40).toUInt8]

/-- The bytes of a text. -/
def encode (s : String) : Bytes := s.toList.flatMap encodeChar

/-- What the decoder expects before the next byte. -/
inductive State where
  /-- A new character. -/
  | boundary
  /-- `more + 1` continuation bytes, the first of them from `low` to `high`; `value` holds the bits
  read so far. -/
  | within (more low high value : Nat)

/-- What stands for bytes that begin no character. -/
def replacement : Char := '\uFFFD'

/-- The decoder at a boundary takes a byte: the new state, and the character it completes. -/
def State.lead (b : Nat) : State × List Char :=
  if b < 0x80 then (.boundary, [Char.ofNat b])
  else if b < 0xC2 then (.boundary, [replacement])
  else if b < 0xE0 then (.within 0 0x80 0xBF (b - 0xC0), [])
  else if b = 0xE0 then (.within 1 0xA0 0xBF 0, [])
  else if b = 0xED then (.within 1 0x80 0x9F 0xD, [])
  else if b < 0xF0 then (.within 1 0x80 0xBF (b - 0xE0), [])
  else if b = 0xF0 then (.within 2 0x90 0xBF 0, [])
  else if b < 0xF4 then (.within 2 0x80 0xBF (b - 0xF0), [])
  else if b = 0xF4 then (.within 2 0x80 0x8F 4, [])
  else (.boundary, [replacement])

/-- The decoder takes a byte.  A byte that does not continue the character ends it, and is read
again as the first of the next one. -/
def State.step : State → UInt8 → State × List Char
  | .boundary, b => lead b.toNat
  | .within more low high value, b =>
    if low ≤ b.toNat ∧ b.toNat ≤ high then
      let value := value * 0x40 + b.toNat % 0x40
      match more with
      | 0 => (.boundary, [Char.ofNat value])
      | more + 1 => (.within more 0x80 0xBF value, [])
    else
      let (next, out) := lead b.toNat
      (next, replacement :: out)

/-- The characters that the decoder reads from the bytes to their end. -/
def State.run : State → Bytes → List Char
  | .boundary, [] => []
  | .within .., [] => [replacement]
  | s, b :: bs =>
    let (next, out) := s.step b
    out ++ run next bs

/-- The text of the bytes. -/
def decode (bs : Bytes) : String := String.ofList (State.run .boundary bs)

end Utf8

end Text

end Depository
