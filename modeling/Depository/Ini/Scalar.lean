import Depository.Json.Reader

/-!
# Keys and values of INI files

A key or a value is a text without the blanks around it.

* A text in quotes — or a lone quote — is read as JSON, after single quotes have been taken off; if
  it is not JSON it stays as it is.
* Another text ends before the first `;` or `#`.  A backslash before a backslash or one of these two
  makes it an ordinary character.
-/

namespace Depository

namespace Ini

/-- The text begins and ends with the character `q`; one character may be both. -/
def isEnclosed (q : Char) (cs : List Char) : Bool := cs.head? == some q && cs.getLast? == some q

/-- The text without its first and its last character. -/
def inner (cs : List Char) : List Char := cs.tail.dropLast

/-- The text up to its comment.  `escaped` tells that a backslash came just before. -/
def uncomment : Bool → List Char → List Char
  | false, [] => []
  | true, [] => ['\\']
  | true, c :: cs =>
    if c = '\\' ∨ c = ';' ∨ c = '#' then c :: uncomment false cs
    else '\\' :: c :: uncomment false cs
  | false, c :: cs =>
    if c = ';' ∨ c = '#' then []
    else if c = '\\' then uncomment true cs
    else c :: uncomment false cs

/-- The value of a text in JSON, or the text itself. -/
def quoted (cs : List Char) : Json :=
  let s := String.ofList cs
  (Json.parse? s).getD (.string s)

/-- The value of a key or a value. -/
def scalar (text : List Char) : Json :=
  let cs := Text.strip Text.isBlank text
  if isEnclosed '\'' cs then quoted (inner cs)
  else if isEnclosed '"' cs then quoted cs
  else .string (String.ofList (Text.strip Text.isBlank (uncomment false cs)))

end Ini

end Depository
