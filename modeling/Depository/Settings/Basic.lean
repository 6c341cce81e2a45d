import Depository.Path
import Depository.Schema.Reader

/-!
# Settings

The service reads its settings from the variables of its environment.

* `Settings.defaults` — the settings where nothing is set but the key;
* `Settings.read` — checks all twelve variables side by side: every one that is unacceptable is
  reported, in the order of the fields, and variables that it does not name have no effect;
* `Settings.load` — the same, with what is wrong as one fault, and `Fault.message` — its wording.
-/

namespace Depository

open Schema

/-- How to reach the database. -/
structure DatabaseSettings where
  host : String
  port : Nat
  username : String
  password : String
  database : String
  /-- The schema is brought up to date when the service starts. -/
  synchronize : Bool
  deriving DecidableEq, Repr

/-- The settings of the service. -/
structure Settings where
  /-- The port that the service listens on. -/
  port : Nat
  database : DatabaseSettings
  /-- The service is shared by parties that do not trust each other. -/
  cloudMode : Bool
  /-- The secret from which the keys of stored fields are derived. -/
  encryptionKey : String
  /-- The time that a connection test may take, in milliseconds. -/
  probeTimeout : Nat
  /-- The directory of local storages, if it is not the default one. -/
  localDirectory : Option String
  /-- The program that reaches the remotes of an rclone configuration. -/
  rcloneBinary : String
  deriving DecidableEq, Repr

namespace Settings

/-- The settings where nothing is set but the key. -/
def defaults (encryptionKey : String) : Settings where
  port := 3000
  database :=
    { host := "localhost", port := 5432, username := "postgres", password := "postgres"
      database := "backups", synchronize := false }
  cloudMode := false
  encryptionKey := encryptionKey
  probeTimeout := 10000
  localDirectory := none
  rcloneBinary := "rclone"

/-- A positive integer, read from anything that stands for a number. -/
def positive (v : Json) : Checked Nat :=
  match v.toNumber?.getD .nan with
  | .nan => .problem (.wrongKind .number .notANumber)
  | n =>
    let sign : List Problem := if n.isPositive then [] else [.notPositive]
    match n.toInt? with
    | none => .invalid ((.wrongKind .integer .float :: sign).map (Issue.mk []))
    | some i => if 0 < i then .valid i.toNat else .invalid (sign.map (Issue.mk []))

/-- A positive integer with a default. -/
def positiveOr (value : Nat) : Reader Nat
  | none => .valid value
  | some v => positive v

/-- One of the words `true` and `false`, with `false` for a missing one. -/
def flag : Reader Bool := (option [("true", true), ("false", false)] false).orDefault false

/-- The least number of units of the encryption key. -/
def leastKeyLength : Nat := 32

/-- The encryption key, which has no default. -/
def key (name : String) : Reader String :=
  (string.orProblem (.missingNamed name)).atLeast leastKeyLength
    (.tooShortNamed name leastKeyLength)

/-- A text with at least one unit. -/
def filled : Reader String := string.atLeast 1 (.tooShort 1)

/-- Puts the fields together in the order in which they are checked. -/
def build (port : Nat) (host : String) (databasePort : Nat) (user password database : String)
    (synchronize cloudMode : Bool) (encryptionKey : String) (probeTimeout : Nat)
    (localDirectory : Option String) (rcloneBinary : String) : Settings :=
  { port, cloudMode, encryptionKey, probeTimeout, localDirectory, rcloneBinary
    database := { host, port := databasePort, username := user, password, database, synchronize } }

/-- Checks every variable of an environment. -/
def read (env : Json) : Checked Settings :=
  build
    <$> field env "PORT" (positiveOr 3000)
    <*> field env "POSTGRES_HOST" (string.orDefault "localhost")
    <*> field env "POSTGRES_PORT" (positiveOr 5432)
    <*> field env "POSTGRES_USER" (string.orDefault "postgres")
    <*> field env "POSTGRES_PASSWORD" (string.orDefault "postgres")
    <*> field env "POSTGRES_DB" (string.orDefault "backups")
    <*> field env "TYPEORM_SYNC" flag
    <*> field env "IS_CLOUD" flag
    <*> field env "STORAGE_ENCRYPTION_KEY" (key "STORAGE_ENCRYPTION_KEY")
    <*> field env "STORAGE_CONNECTION_TEST_TIMEOUT_MS" (positiveOr 10000)
    <*> field env "LOCAL_STORAGE_PATH" filled.optional
    <*> field env "RCLONE_BINARY" (filled.orDefault "rclone")

/-- The settings of an environment that may be missing, or every issue of it. -/
def check (env : Option Json) : Checked Settings :=
  match object env with
  | .valid o => read o
  | .invalid issues => .invalid issues

/-- Why an environment gives no settings. -/
inductive Fault where
  /-- Some variables are unacceptable. -/
  | invalid (issues : List Issue)
  /-- A variable that should stand for a number has not even a plain text. -/
  | noPlainText
  deriving DecidableEq, Repr

/-- The wording of a fault. -/
def Fault.message : Fault → String
  | invalid issues =>
    "Invalid configuration: " ++ "; ".intercalate (issues.map Issue.placedText)
  | noPlainText => Json.noPlainText

/-- The variables that stand for numbers. -/
def numericNames : List String :=
  ["PORT", "POSTGRES_PORT", "STORAGE_CONNECTION_TEST_TIMEOUT_MS"]

/-- Every variable that should stand for a number has at least a plain text. -/
def isReadable (env : Option Json) : Bool :=
  numericNames.all fun name => (env.bind (Json.get? name)).all fun v => v.toNumber?.isSome

/-- The settings of an environment, or why it gives none. -/
def load (env : Option Json) : Except Fault Settings :=
  if !isReadable env then .error .noPlainText
  else
    match check env with
    | .valid settings => .ok settings
    | .invalid issues => .error (.invalid issues)

/-- The directory of local storages, by default below the working directory. -/
def storageDirectory (s : Settings) (workingDirectory : String) : String :=
  s.localDirectory.getD (Path.join [workingDirectory, "data", "backups"])

end Settings

end Depository
