/-!
# Connections of callers

A caller whose connection closes before the response was sent has gone away, and what was begun for
him is told to stop.

* `Connection` — what is known of a connection;
* `Connection.step` — what an event does to it.
-/

namespace Depository

/-- A connection of a caller. -/
structure Connection where
  /-- The response was sent. -/
  finished : Bool
  closed : Bool
  /-- What was begun for the caller is told to stop. -/
  aborted : Bool
  deriving DecidableEq, Repr

namespace Connection

/-- What can happen to a connection. -/
inductive Event where
  /-- The response was sent. -/
  | finished
  | closed
  /-- Something that does not matter here. -/
  | other
  deriving DecidableEq, Repr

/-- A connection at the beginning of a request. -/
def start (finished : Bool) : Connection := ⟨finished, false, false⟩

/-- The connection after an event. -/
def step (c : Connection) : Event → Connection
  | .finished => { c with finished := true }
  | .closed => if c.closed then c else { c with closed := true, aborted := !c.finished }
  | .other => c

end Connection

end Depository
