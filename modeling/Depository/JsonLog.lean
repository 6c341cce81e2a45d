import Depository.Json.Writer

/-!
# The log as JSON

Where the log is read by machines, each line is a JSON object.  What is not given is left out of it.

* `JsonLog.entry` — the object of a line;
* `JsonLog.Level.stream` — where lines of a level are written.
-/

namespace Depository

namespace JsonLog

/-- The importance of a line. -/
inductive Level where
  | info
  | error
  | warn
  | debug
  | verbose
  deriving DecidableEq, Repr

/-- The name of a level. -/
def Level.name : Level → String
  | info => "info"
  | error => "error"
  | warn => "warn"
  | debug => "debug"
  | verbose => "verbose"

/-- Where lines are written. -/
inductive Stream where
  | output
  | warnings
  | errors
  deriving DecidableEq, Repr

/-- Where lines of a level are written. -/
def Level.stream : Level → Stream
  | error => .errors
  | warn => .warnings
  | info | debug | verbose => .output

/-- What a line tells. -/
inductive Message where
  | value (value : Json)
  /-- An error with its name and where it came from. -/
  | error (message name stack : String)

/-- What a line tells, as JSON. -/
def Message.toJson : Message → Json
  | value v => v
  | error message name stack =>
    .object [("message", .string message), ("stack", .string stack), ("name", .string name)]

/-- The member of a value that may be missing. -/
def optional (key : String) : Option Json → Members Json
  | some v => [(key, v)]
  | none => []

/-- The object of a line. -/
def entry (level : Level) (message : Option Message) (context trace : Option Json)
    (timestamp : String) : Json :=
  .object ([("level", .string level.name)] ++ optional "message" (message.map Message.toJson) ++
    optional "context" context ++ optional "trace" trace ++ [("timestamp", .string timestamp)])

end JsonLog

end Depository
