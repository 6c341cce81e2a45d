import Depository.Text.Hex

/-!
# Percent-encoding

* `Percent.decode?` — the text of a percent-encoded one; none if a `%` is not followed by two
  digits, or if the bytes are no text;
* `Percent.decodeForm` — the same for a part of a query, where `+` is a blank and a text that cannot
  be decoded is taken as it is.
-/

namespace Depository

namespace Http

namespace Percent

/-- The bytes of a percent-encoded text. -/
def bytes? : List Char → Option Bytes
  | [] => some []
  | '%' :: a :: b :: cs =>
    match Text.Hex.digit? a, Text.Hex.digit? b with
    | some x, some y => (bytes? cs).map ((x * 16 + y).toUInt8 :: ·)
    | _, _ => none
  | c :: cs => if c = '%' then none else (bytes? cs).map (Text.Utf8.encodeChar c ++ ·)

/-- The text of bytes that are one. -/
def textOf? (bs : Bytes) : Option String :=
  let s := Text.Utf8.decode bs
  if Text.Utf8.encode s = bs then some s else none

/-- The text of a percent-encoded one. -/
def decode? (cs : List Char) : Option String := (bytes? cs).bind textOf?

/-- The text of a part of a query. -/
def decodeForm (cs : List Char) : String :=
  let spaced := cs.map fun c => if c = '+' then ' ' else c
  (decode? spaced).getD (String.ofList spaced)

end Percent

end Http

end Depository
