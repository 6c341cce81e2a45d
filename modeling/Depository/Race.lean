import Depository.Deadline

/-!
# The race of work against its deadline

What a `Deadline` tells in a few phases, step by step: a signal with its listeners, a timer, the
caller's own signal, and a queue of jobs through which the first side that comes to its end hands
its verdict to whoever waits for it.

* `Race.begin` — the race up to the call of the work: its own listener is the first one;
* `Race.step`, `Race.run` — what an event, or a sequence of events, does;
* `Race.drain` — the race once every job that waits has run.
-/

namespace Depository

/-- Who can give up. -/
inductive Race.Caller where
  | absent
  | live
  /-- The caller gave up before. -/
  | gone
  deriving DecidableEq, Repr

/-- What is told that the work is to stop. -/
inductive Race.Listener (α : Type) where
  /-- The side of the race that is against the work. -/
  | race
  /-- The work itself, which is done then. -/
  | work (outcome : α)
  deriving DecidableEq, Repr

/-- A job of the queue. -/
inductive Race.Job (α : Type) where
  /-- A side has come to its end. -/
  | arrival (verdict : Verdict α)
  /-- The verdict of the winner reaches whoever waits for it. -/
  | resumption
  deriving DecidableEq, Repr

/-- What can happen in a race. -/
inductive Race.Event (α : Type) where
  /-- The work starts to listen; it will be done when it is told to stop. -/
  | listens (outcome : α)
  | settles (outcome : α)
  /-- The call of the work returns; what comes of the work is waited for. -/
  | returned
  /-- The call of the work fails. -/
  | threw (outcome : α)
  | cancelled
  | passes (milliseconds : Nat)
  /-- The next job of the queue runs. -/
  | next
  deriving DecidableEq, Repr

/-- A race of work against its deadline. -/
structure Race (α : Type) where
  /-- The limit in milliseconds, as it was given. -/
  limit : Number
  /-- The milliseconds since the start. -/
  clock : Nat
  /-- The work was called. -/
  started : Bool
  /-- What an interruption would be told as. -/
  cause : Interruption
  /-- The work was told to stop. -/
  fired : Bool
  /-- Who is still to be told, in order. -/
  listeners : List (Race.Listener α)
  /-- How the work has settled. -/
  settled : Option α
  /-- What the side against the work has been told. -/
  interrupted : Option Interruption
  /-- Both sides run against each other. -/
  joined : Bool
  jobs : List (Race.Job α)
  winner : Option (Verdict α)
  /-- The timer is set. -/
  timed : Bool
  /-- The caller is listened to. -/
  hears : Bool
  /-- What the caller was told at the end. -/
  result : Option (Verdict α)
  deriving DecidableEq, Repr

namespace Race

variable {α : Type}

/-! ### Signals -/

/-- Adds a listener.  What has fired tells nobody any more. -/
def listen (l : Listener α) (r : Race α) : Race α :=
  if r.fired then r else { r with listeners := r.listeners ++ [l] }

/-- A side comes to its end, which counts once the sides run against each other. -/
def arrive (v : Verdict α) (r : Race α) : Race α :=
  if r.joined then { r with jobs := r.jobs ++ [.arrival v] } else r

/-- The work settles, for the first time. -/
def settle (x : α) (r : Race α) : Race α :=
  match r.settled with
  | none => { r with settled := some x }.arrive (.own x)
  | some _ => r

/-- The side against the work is told what interrupts it. -/
def reject (r : Race α) : Race α :=
  match r.interrupted with
  | none => { r with interrupted := some r.cause }.arrive (.interrupted r.cause)
  | some _ => r

/-- What a listener does. -/
def hear (r : Race α) : Listener α → Race α
  | .race => r.reject
  | .work x => r.settle x

/-- Tells all listeners, once and in order. -/
def fire (r : Race α) : Race α :=
  if r.fired then r else r.listeners.foldl hear { r with fired := true, listeners := [] }

/-- The timer interrupts the work. -/
def ring (r : Race α) : Race α := { r with timed := false, cause := .timeout }.fire

/-- The caller gives up. -/
def cancel (r : Race α) : Race α := if r.hears then { r with hears := false }.fire else r

/-! ### Verdicts -/

/-- Lets go of the timer and of the caller's signal, and tells the verdict. -/
def release (v : Verdict α) (r : Race α) : Race α :=
  { r with timed := false, hears := false, result := some v }

/-- The call of the work has not come to an end. -/
def isCalling (r : Race α) : Bool := !r.joined && r.result.isNone

/-- The sides that have come to an end before they run against each other; the work is asked
first. -/
def early (r : Race α) : List (Job α) :=
  r.settled.toList.map (fun x => .arrival (.own x))
    ++ r.interrupted.toList.map (fun c => .arrival (.interrupted c))

/-- The call returns: from now on the sides run against each other. -/
def join (r : Race α) : Race α :=
  if r.isCalling then { r with joined := true, jobs := r.jobs ++ r.early } else r

/-- The call fails, which nobody has to wait for. -/
def throw (x : α) (r : Race α) : Race α := if r.isCalling then r.release (.own x) else r

/-- The next job runs: the first side that arrives wins. -/
def deliver (r : Race α) : Race α :=
  match r.jobs, r.winner with
  | [], _ => r
  | .arrival v :: rest, none => { r with jobs := rest ++ [.resumption], winner := some v }
  | .arrival _ :: rest, some _ => { r with jobs := rest }
  | .resumption :: rest, none => { r with jobs := rest }
  | .resumption :: rest, some v => { r with jobs := rest }.release v

/-- The timer rings.  It waits until the call of the work is over and no job is left. -/
def rings (r : Race α) : Bool :=
  r.timed && r.joined && r.jobs.isEmpty && decide (Deadline.due r.limit ≤ r.clock)

/-- The race some time later, before its timer is looked at. -/
def wait (milliseconds : Nat) (r : Race α) : Race α := { r with clock := r.clock + milliseconds }

/-- Time passes. -/
def pass (milliseconds : Nat) (r : Race α) : Race α :=
  if (r.wait milliseconds).rings then (r.wait milliseconds).ring else r.wait milliseconds

/-! ### The race -/

/-- Before anything is arranged. -/
def idle (limit : Number) : Race α :=
  ⟨limit, 0, false, .cancellation, false, [], none, none, false, [], none, false, false, none⟩

/-- Listens to the caller's signal, if there is one. -/
def attend (caller : Caller) (r : Race α) : Race α := { r with hears := caller == .live }

/-- Sets the timer. -/
def arm (r : Race α) : Race α := { r with timed := true }

/-- Calls the work. -/
def start (r : Race α) : Race α := { r with started := true }

/-- The race up to the call of the work.  A caller that gave up before is told so at once, and the
work is never called. -/
def begin (limit : Number) : Caller → Race α
  | .gone => { (idle limit : Race α) with result := some (.interrupted .cancellation) }
  | caller => ((((idle limit).listen .race).attend caller).arm).start

/-- The race after an event. -/
def step (r : Race α) : Event α → Race α
  | .listens x => r.listen (.work x)
  | .settles x => r.settle x
  | .returned => r.join
  | .threw x => r.throw x
  | .cancelled => r.cancel
  | .passes milliseconds => r.pass milliseconds
  | .next => r.deliver

/-- The race after events, one after another. -/
def run (r : Race α) (events : List (Event α)) : Race α := events.foldl step r

/-- The race once every job that waits has run, and the one that the winner adds. -/
def drain (r : Race α) : Race α := r.run (.replicate (r.jobs.length + 1) .next)

end Race

end Depository
