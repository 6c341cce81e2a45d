import Depository.Members
import Depository.Number.Numeral
import Depository.Number.Shortest

/-!
# JSON values

* `Json` — the values; an object is a list of members in order, with distinct keys when it was read
  or built by `Members.set`;
* `Json.get?` — the member of a key;
* `Json.kind` — what a value is called in messages;
* `Json.plainText?` — a value as plain text, and `Json.toNumber?` — a value as a number.
-/

namespace Depository

/-- A JSON value. -/
inductive Json where
  | null
  | bool (value : Bool)
  | number (value : Number)
  | string (value : String)
  | array (items : List Json)
  | object (members : List (String × Json))
  deriving Inhabited

namespace Json

/-- The member of an object. -/
def get? (key : String) : Json → Option Json
  | object members => Members.get? key members
  | _ => none

/-- What a value is called in messages. -/
inductive Kind where
  | string | number | notANumber | integer | float | boolean | array | object | null
  deriving DecidableEq, Repr

/-- The name of a kind. -/
def Kind.name : Kind → String
  | string => "string"
  | number => "number"
  | notANumber => "nan"
  | integer => "integer"
  | float => "float"
  | boolean => "boolean"
  | array => "array"
  | object => "object"
  | null => "null"

/-- The kind of a value. -/
def kind : Json → Kind
  | null => .null
  | bool _ => .boolean
  | number .nan => .notANumber
  | number _ => .number
  | string _ => .string
  | array _ => .array
  | object _ => .object

/-- The member that no object with a plain text has. -/
def textBarrier : String := "toString"

/-- How it is told that a value has no plain text. -/
def noPlainText : String := "Cannot convert object to primitive value"

mutual

/-- A value as plain text: a text is itself, the items of an array are joined by commas, and an
object shows nothing of its members.  There is none for an object with the member `textBarrier`, nor
for an array with such an object in it. -/
def plainText? : Json → Option String
  | null => some "null"
  | bool value => some (if value then "true" else "false")
  | number value => some value.text
  | string value => some value
  | array items => (itemTexts? items).map (",".intercalate ·)
  | object members =>
    if (Members.get? textBarrier members).isSome then none else some "[object Object]"

/-- The texts of the items of an array; null leaves an empty place. -/
def itemTexts? : List Json → Option (List String)
  | [] => some []
  | null :: rest => (itemTexts? rest).map ("" :: ·)
  | item :: rest => do
    let text ← plainText? item
    let texts ← itemTexts? rest
    return text :: texts

end

/-- A value as a number: null is zero, the booleans are zero and one, an array counts as its plain
text, and an object is no number.  There is none where there is no plain text. -/
def toNumber? : Json → Option Number
  | null => some (.integer 0)
  | bool value => some (.integer (if value then 1 else 0))
  | number value => some value
  | string value => some (Number.ofText value)
  | array items => (plainText? (array items)).map Number.ofText
  | object members => (plainText? (object members)).map fun _ => .nan

/-- A value counts as true: all but null, `false`, zero, no number and the empty text do. -/
def isTruthy : Json → Bool
  | null => false
  | bool value => value
  | number value => value != .integer 0 && value != .nan
  | string value => value != ""
  | array _ => true
  | object _ => true

end Json

end Depository
