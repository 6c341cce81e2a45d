import Depository.Json.Basic

/-!
# Issues of a submitted value

What can be wrong with one part of a submitted value, and how it is told.

* `Problem` — what is wrong; `Problem.message` — its wording;
* `Issue` — a problem at a path of keys; `Issue.text` — its line in a list of issues.
-/

namespace Depository

namespace Schema

/-- What is wrong with a part of a submitted value. -/
inductive Problem where
  /-- It is missing. -/
  | missing
  /-- It is missing, and the message names it. -/
  | missingNamed (name : String)
  /-- It is of another kind. -/
  | wrongKind (expected received : Json.Kind)
  /-- It is of a kind that none of the options has. -/
  | noOption (options : List String) (received : Json.Kind)
  /-- It is none of the options. -/
  | unknownOption (options : List String) (received : String)
  /-- It is zero or below. -/
  | notPositive
  /-- It is not a UUID. -/
  | notUuid
  /-- It is not a UUID, and the message names it. -/
  | invalidNamed (name : String)
  /-- It has fewer than `least` units. -/
  | tooShort (least : Nat)
  /-- It has fewer than `least` units, and the message names it. -/
  | tooShortNamed (name : String) (least : Nat)
  deriving DecidableEq, Repr

/-- The options in quotes. -/
def quotedOptions (options : List String) : String :=
  " | ".intercalate (options.map fun o => "'" ++ o ++ "'")

/-- The wording of a problem. -/
def Problem.message : Problem → String
  | missing => "Required"
  | missingNamed name => name ++ " is required"
  | wrongKind expected received => "Expected " ++ expected.name ++ ", received " ++ received.name
  | noOption options received =>
    "Expected " ++ quotedOptions options ++ ", received " ++ received.name
  | unknownOption options received =>
    "Invalid enum value. Expected " ++ quotedOptions options ++ ", received '" ++ received ++ "'"
  | notPositive => "Number must be greater than 0"
  | notUuid => "Invalid uuid"
  | invalidNamed name => "invalid " ++ name
  | tooShort least => "String must contain at least " ++ toString least ++ " character(s)"
  | tooShortNamed name least =>
    name ++ " must be at least " ++ toString least ++ " characters"

/-- A problem and where it is: the keys that lead to the part. -/
structure Issue where
  path : List String
  problem : Problem
  deriving DecidableEq, Repr

/-- The keys joined by dots. -/
def Issue.place (i : Issue) : String := ".".intercalate i.path

/-- The issue in a list: the place, if there is one, and the message. -/
def Issue.text (i : Issue) : String :=
  if i.place = "" then i.problem.message else i.place ++ ": " ++ i.problem.message

/-- The issue in a list that always shows the place, also an empty one. -/
def Issue.placedText (i : Issue) : String := i.place ++ ": " ++ i.problem.message

/-- The issue one key deeper. -/
def Issue.under (key : String) (i : Issue) : Issue := { i with path := key :: i.path }

end Schema

end Depository
