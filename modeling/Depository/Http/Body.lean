import Depository.Json.Cell
import Depository.Json.Writer

/-!
# Bodies

The body of a request is sent as JSON, and it must be an object or an array.  Any other value is
refused at its first character, and the refusal shows how it was written, of a long one only the
beginning.

* `Body.read` — the value of a body, or why it is refused.
-/

namespace Depository

namespace Http

namespace Body

/-- The greatest length at which a text is shown whole. -/
def wholeLength : Nat := 20

/-- The length of the beginning that is shown of a longer text. -/
def excerptLength : Nat := 10

/-- What is shown of a text. -/
def excerpt (text : String) : String :=
  if Text.unitCount text ≤ wholeLength then "\"" ++ text ++ "\""
  else "\"" ++ String.ofList (text.toList.take excerptLength) ++ "\"..."

/-- Why a body is refused that is neither an object nor an array. -/
def refusal (value : Json) : String :=
  let text := value.render
  "Unexpected token '" ++ String.ofList (text.toList.take 1) ++ "', " ++ excerpt text ++
    " is not valid JSON"

/-- The value of a body; without one it is an empty object. -/
def read : Cell → Except String Json
  | none => .ok (.object [])
  | some (.object members) => .ok (.object members)
  | some (.array items) => .ok (.array items)
  | some value => .error (refusal value)

end Body

end Http

end Depository
