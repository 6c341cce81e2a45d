import Depository.Number.Shortest

/-!
# Work under a deadline

A piece of work runs until it is done, until its time is over or until its caller gives up,
whichever comes first.  Work that is interrupted is told so and goes on by itself; nobody waits for
it any more.

The verdict falls in two moves.  It is *decided* by the first event; a moment later it is
*released*, and from then on neither the caller nor the clock has any influence on the work.

* `Deadline.due` — when the time of a limit is over;
* `Deadline.start?` — the work at its start, unless its caller gave up before;
* `Deadline.step`, `Deadline.run` — what an event, or a sequence of events, does.
-/

namespace Depository

/-- What cuts work short. -/
inductive Interruption where
  /-- Its time is over. -/
  | timeout
  /-- Its caller gave up. -/
  | cancellation
  deriving DecidableEq, Repr

/-- What becomes of work. -/
inductive Verdict (α : Type) where
  /-- Its own outcome. -/
  | own (outcome : α)
  | interrupted (cause : Interruption)
  deriving DecidableEq, Repr

/-- How far work has come. -/
inductive Deadline.Phase (α : Type) where
  /-- It has not waited for anything yet; perhaps it has been interrupted. -/
  | starting (pending : Option Interruption)
  | running
  /-- The verdict has fallen. -/
  | decided (verdict : Verdict α)
  /-- The verdict has reached the caller. -/
  | released (verdict : Verdict α)
  deriving DecidableEq, Repr

/-- Work under a deadline. -/
structure Deadline (α : Type) where
  /-- The limit in milliseconds, as it was given. -/
  limit : Number
  /-- The milliseconds since the start. -/
  clock : Nat
  /-- The work was told to stop. -/
  aborted : Bool
  phase : Deadline.Phase α
  deriving DecidableEq, Repr

namespace Deadline

variable {α : Type}

/-! ### Limits -/

/-- The longest limit that the timer can wait for. -/
def longest : Nat := 2147483647

/-- The whole milliseconds of a limit. -/
def whole : Number → Int
  | .integer i => i
  | .fraction half depth => (2 * half + 1) / Nat.pow 2 (depth + 1)
  | .infinite _ | .nan => 0

/-- The limit is below the longest one, or is it. -/
def isWithin : Number → Bool
  | .integer i => i ≤ longest
  | .fraction half depth => 2 * half + 1 ≤ longest * Nat.pow 2 (depth + 1)
  | .infinite _ | .nan => false

/-- When the time of a limit is over: after its whole milliseconds, or after one millisecond where
the timer cannot wait for it. -/
def due (limit : Number) : Nat :=
  if 1 ≤ whole limit ∧ isWithin limit then (whole limit).toNat else 1

/-- How an interruption is told, with the limit as it is shown. -/
def message (limit : String) : Interruption → String
  | .timeout => "timed out after " ++ limit ++ "ms"
  | .cancellation => "operation was cancelled"

/-! ### Events -/

/-- What can happen to work. -/
inductive Event (α : Type) where
  /-- It is done. -/
  | settled (outcome : α)
  /-- It fails before it waits for anything, and is let go at once. -/
  | threw (outcome : α)
  /-- It waits for the first time. -/
  | suspended
  /-- Its caller gives up. -/
  | cancelled
  /-- Time passes. -/
  | passed (milliseconds : Nat)
  /-- A decided verdict reaches the caller. -/
  | delivered
  deriving DecidableEq, Repr

/-- The work at its start; none if its caller gave up before. -/
def start? (limit : Number) (cancelled : Bool) : Option (Deadline α) :=
  if cancelled then none else some ⟨limit, 0, false, .starting none⟩

/-- The work is interrupted.  At its start the verdict is left open until it waits. -/
def interrupt (cause : Interruption) (d : Deadline α) : Deadline α :=
  match d.phase with
  | .starting pending => { d with aborted := true, phase := .starting (pending.or (some cause)) }
  | .running => { d with aborted := true, phase := .decided (.interrupted cause) }
  | .decided _ => { d with aborted := true }
  | .released _ => d

/-- The work is done.  What came before it decides. -/
def settle (outcome : α) (d : Deadline α) : Deadline α :=
  match d.phase with
  | .starting _ | .running => { d with phase := .decided (.own outcome) }
  | .decided _ | .released _ => d

/-- The work waits for the first time: an interruption that came before decides now. -/
def suspend (d : Deadline α) : Deadline α :=
  match d.phase with
  | .starting none => { d with phase := .running }
  | .starting (some cause) => { d with phase := .decided (.interrupted cause) }
  | .running | .decided _ | .released _ => d

/-- The work fails before it waits. -/
def throw (outcome : α) (d : Deadline α) : Deadline α :=
  match d.phase with
  | .starting _ => { d with phase := .released (.own outcome) }
  | .running | .decided _ | .released _ => d

/-- The verdict reaches the caller. -/
def deliver (d : Deadline α) : Deadline α :=
  match d.phase with
  | .decided verdict => { d with phase := .released verdict }
  | .starting _ | .running | .released _ => d

/-- Time passes, and running work is interrupted when its time is over. -/
def pass (milliseconds : Nat) (d : Deadline α) : Deadline α :=
  let d := { d with clock := d.clock + milliseconds }
  match d.phase with
  | .running => if due d.limit ≤ d.clock then d.interrupt .timeout else d
  | .starting _ | .decided _ | .released _ => d

/-- The work after an event. -/
def step (d : Deadline α) : Event α → Deadline α
  | .settled outcome => d.settle outcome
  | .threw outcome => d.throw outcome
  | .suspended => d.suspend
  | .cancelled => d.interrupt .cancellation
  | .passed milliseconds => d.pass milliseconds
  | .delivered => d.deliver

/-- The work after events, one after another. -/
def run (d : Deadline α) (events : List (Event α)) : Deadline α := events.foldl step d

/-- The work after all the time that it has, for work that never settles. -/
def exhaust (d : Deadline α) : Deadline α := d.pass (due d.limit - d.clock)

/-- The verdict, once it is decided. -/
def verdict? (d : Deadline α) : Option (Verdict α) :=
  match d.phase with
  | .starting _ | .running => none
  | .decided verdict | .released verdict => some verdict

/-! ### What is decided stays -/

theorem step_released {d : Deadline α} {v : Verdict α} (h : d.phase = .released v) (e : Event α) :
    (d.step e).phase = .released v ∧ (d.step e).aborted = d.aborted := by
  cases e <;> simp [step, settle, throw, suspend, interrupt, pass, deliver, h]

theorem step_verdict {d : Deadline α} {v : Verdict α} (h : d.verdict? = some v) (e : Event α) :
    (d.step e).verdict? = some v := by
  obtain ⟨limit, clock, aborted, phase⟩ := d
  cases phase <;>
    cases e <;> simp_all [verdict?, step, settle, throw, suspend, interrupt, pass, deliver]

/-- **The first event decides**: a verdict never changes. -/
theorem run_verdict {d : Deadline α} {v : Verdict α} (h : d.verdict? = some v)
    (events : List (Event α)) : (d.run events).verdict? = some v := by
  induction events generalizing d with
  | nil => exact h
  | cons e rest ih => exact ih (step_verdict h e)

/-! ### Every piece of work comes to a verdict -/

/-- The work has waited, or is done. -/
def hasStarted (d : Deadline α) : Bool :=
  match d.phase with
  | .starting _ => false
  | .running | .decided _ | .released _ => true

theorem hasStarted_suspend (d : Deadline α) : d.suspend.hasStarted = true := by
  obtain ⟨limit, clock, aborted, phase⟩ := d
  cases phase with
  | starting pending => cases pending <;> rfl
  | running => rfl
  | decided v => rfl
  | released v => rfl

theorem hasStarted_step {d : Deadline α} (h : d.hasStarted = true) (e : Event α) :
    (d.step e).hasStarted = true := by
  obtain ⟨limit, clock, aborted, phase⟩ := d
  cases phase with
  | starting pending => simp [hasStarted] at h
  | running =>
    cases e with
    | passed milliseconds => simp only [step, pass, interrupt]; split <;> rfl
    | _ => rfl
  | decided v => cases e <;> rfl
  | released v => cases e <;> rfl

theorem verdict_settle (outcome : α) (d : Deadline α) :
    (d.settle outcome).verdict?.isSome = true := by
  obtain ⟨limit, clock, aborted, phase⟩ := d
  cases phase <;> rfl

theorem verdict_exhaust {d : Deadline α} (h : d.hasStarted = true) :
    d.exhaust.verdict?.isSome = true := by
  obtain ⟨limit, clock, aborted, phase⟩ := d
  cases phase with
  | starting pending => simp [hasStarted] at h
  | running =>
    have hle : due limit ≤ clock + (due limit - clock) := by omega
    simp [exhaust, pass, interrupt, verdict?, hle]
  | decided v => rfl
  | released v => rfl

end Deadline

end Depository
