import Depository.Json.Cell
import Depository.Settings.Basic

/-!
# The database of the schema tools

The tools that bring the database up to date read only the database's variables, by rules of their
own: a variable that does not count as true counts as missing, and of the port's text only the
leading digits count.
-/

namespace Depository

/-- How the schema tools reach the database. -/
structure DataSource where
  host : Json
  /-- The port, which is no number if its text does not begin with one. -/
  port : Number
  username : Json
  password : Json
  database : Json

namespace DataSource

/-- The variable `name`, or `value` if it counts as missing. -/
def setting (env : Json) (name value : String) : Json :=
  if Cell.isTruthy (env.get? name) then Cell.orNull (env.get? name) else .string value

/-- The number of the decimal digits that a text begins with, after blanks and a sign. -/
def leadingInteger (s : String) : Number :=
  let cs := s.toList.dropWhile Text.isBlank
  let (negative, cs) := match cs with
    | '-' :: rest => (true, rest)
    | '+' :: rest => (false, rest)
    | rest => (false, rest)
  match cs.takeWhile Number.isDigit with
  | [] => .nan
  | ds => Number.ofRatio negative (Number.digitsValue ds) 1

/-- The data source of an environment; none if its port cannot be told. -/
def ofEnvironment? (env : Json) : Option DataSource := do
  let port ← (setting env "POSTGRES_PORT" "5432").plainText?
  return { host := setting env "POSTGRES_HOST" "localhost", port := leadingInteger port
           username := setting env "POSTGRES_USER" "postgres"
           password := setting env "POSTGRES_PASSWORD" "postgres"
           database := setting env "POSTGRES_DB" "backups" }

end DataSource

end Depository
