import Depository.Ini.Scalar
import Depository.Text.Lines

/-!
# Lines of INI files

A line is a header `[name]`, an assignment `key = value`, a key alone, or nothing: blank lines,
comments and lines of no form are passed over.
-/

namespace Depository

namespace Ini

/-- What a line says. -/
inductive Line where
  /-- Nothing. -/
  | nothing
  /-- The section of this name begins. -/
  | header (name : Json)
  /-- The key has this value. -/
  | assign (key value : Json)

/-- The value of the text after `=`; three words stand for values. -/
def valueOf (text : List Char) : Json :=
  match scalar text with
  | .string "true" => .bool true
  | .string "false" => .bool false
  | .string "null" => .null
  | v => v

/-- The name in a header: the text between `[` and the first `]`, if only blanks follow. -/
def headerName? : List Char → Option (List Char)
  | '[' :: cs =>
    match cs.dropWhile (· ≠ ']') with
    | ']' :: rest => if rest.all Text.isBlank then some (cs.takeWhile (· ≠ ']')) else none
    | _ => none
  | _ => none

/-- A line separator or a paragraph separator, which no value contains. -/
def isSeparator (c : Char) : Bool := c == '\u2028' || c == '\u2029'

/-- The line is blank or a comment. -/
def isPassedOver (cs : List Char) : Bool :=
  match cs.dropWhile Text.isBlank with
  | [] => true
  | c :: _ => c == ';' || c == '#'

/-- What an assignment or a key alone says. -/
def assignment (cs : List Char) : Line :=
  let key := cs.takeWhile (· ≠ '=')
  match key, cs.dropWhile (· ≠ '=') with
  | [], _ => .nothing
  | _, [] => .assign (scalar key) (.bool true)
  | _, _ :: value =>
    if value.any isSeparator then .nothing else .assign (scalar key) (valueOf value)

/-- What a line says. -/
def Line.read (cs : List Char) : Line :=
  if isPassedOver cs then .nothing
  else
    match headerName? cs with
    | some name => .header (scalar name)
    | none => assignment cs

end Ini

end Depository
