import Depository.Text.Hex

/-!
# The form of a UUID

A UUID is written as five groups of hexadecimal digits of either case, of 8, 4, 4, 4 and 12 digits,
with hyphens between them.  Every version is accepted.
-/

namespace Depository

namespace Text

/-- The text after `n` leading hexadecimal digits, if it has them. -/
def afterDigits? : Nat → List Char → Option (List Char)
  | 0, cs => some cs
  | n + 1, c :: cs => if (Hex.digit? c).isSome then afterDigits? n cs else none
  | _ + 1, [] => none

/-- The text is made of groups of hexadecimal digits of the given sizes, joined by hyphens. -/
def hasHexGroups : List Nat → List Char → Bool
  | [], cs => cs.isEmpty
  | [n], cs => afterDigits? n cs == some []
  | n :: rest, cs =>
    match afterDigits? n cs with
    | some ('-' :: cs) => hasHexGroups rest cs
    | _ => false

/-- The text is a UUID. -/
def isUuid (s : String) : Bool := hasHexGroups [8, 4, 4, 4, 12] s.toList

end Text

end Depository
