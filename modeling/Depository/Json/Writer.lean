import Depository.Json.Basic

/-!
# Writing JSON

`Json.render` writes a value on one line.  A number that is infinite or no number is written as
`null`, since JSON has no such numbers.
-/

namespace Depository

namespace Json

/-- The characters that have an escape of one letter, with that letter. -/
def escapes : List (Char × Char) :=
  [('"', '"'), ('\\', '\\'), ('\x08', 'b'), ('\t', 't'), ('\n', 'n'), ('\x0c', 'f'), ('\r', 'r')]

/-- A character inside a quoted text. -/
def escapeChar (c : Char) : List Char :=
  match escapes.lookup c with
  | some letter => ['\\', letter]
  | none =>
    if c.toNat < 0x20 then
      ['\\', 'u', '0', '0', Nat.digitChar (c.toNat / 16), Nat.digitChar (c.toNat % 16)]
    else [c]

/-- A text in quotes. -/
def quote (s : String) : String := String.ofList ('"' :: s.toList.flatMap escapeChar ++ ['"'])

/-- A number, or `null` for what JSON cannot write. -/
def renderNumber : Number → String
  | .infinite _ => "null"
  | .nan => "null"
  | value => value.text

mutual

/-- A value as JSON text. -/
def render : Json → String
  | null => "null"
  | bool value => if value then "true" else "false"
  | number value => renderNumber value
  | string value => quote value
  | array items => "[" ++ ",".intercalate (renderItems items) ++ "]"
  | object members => "\x7b" ++ ",".intercalate (renderMembers members) ++ "\x7d"

/-- The texts of the items. -/
def renderItems : List Json → List String
  | [] => []
  | item :: rest => render item :: renderItems rest

/-- The texts of the members. -/
def renderMembers : List (String × Json) → List String
  | [] => []
  | member :: rest => renderMember member :: renderMembers rest

/-- The text of a member. -/
def renderMember : String × Json → String
  | (key, value) => quote key ++ ":" ++ render value

end

end Json

end Depository
