import Depository.Deadline
import Depository.Probe.Check

/-!
# Runs of connection tests

A program of calls is run in circumstances that decide what comes of each call, how long it takes
and when the caller gives up.  The program is run to its end, also when its caller has had the
verdict long before: what it still does then is part of the run.

* `Circumstances` — what decides; they may depend on all that happened before;
* `Run` — what happened;
* `Probe.play` — the run of a program, and `Probe.play_decided` — every run comes to a verdict.
-/

namespace Depository

/-- A run of a program. -/
structure Run where
  /-- The calls in order. -/
  calls : List Call
  deadline : Deadline (Except Trouble Unit)
  /-- What is called when the program is told to stop. -/
  release : Option Call
  /-- What was told of calls of this kind that failed. -/
  notes : List String
  /-- The number of ids taken. -/
  drawn : Nat

/-- What comes of a call that is answered at once. -/
structure Answer where
  outcome : Except Trouble Unit
  /-- The caller gives up during the call. -/
  cancels : Bool

/-- What happens while a call is waited for. -/
inductive Happening where
  /-- The caller gives up. -/
  | cancels
  /-- Time passes. -/
  | passes (milliseconds : Nat)
  deriving DecidableEq, Repr

/-- What comes of a call that is waited for. -/
structure Waiting where
  /-- What happens before the reply. -/
  happenings : List Happening
  /-- The reply; none if there never is one. -/
  reply : Option (Except Trouble Json)

/-- What decides about the calls of a program. -/
structure Circumstances where
  answer : Run → Call → Answer
  waiting : Run → Call → Waiting
  /-- Why a call fails that is made because the program was told to stop. -/
  releaseTrouble : Run → Call → Option Trouble
  /-- The id of a number. -/
  freshId : Nat → String

namespace Run

/-- The run before its first call. -/
def start (d : Deadline (Except Trouble Unit)) : Run := ⟨[], d, none, [], 0⟩

/-- The run with one more call. -/
def record (call : Call) (r : Run) : Run := { r with calls := r.calls ++ [call] }

/-- Makes the call that was arranged for this moment, if there is one.  If its outcome comes later
and is trouble that can be told, that is noted. -/
def fire (w : Circumstances) (r : Run) : Run :=
  match r.release with
  | none => r
  | some call =>
    let trouble := if call.method.isAwaited then w.releaseTrouble r call else none
    { r with calls := r.calls ++ [call], release := none
             notes := r.notes ++ (trouble.bind Trouble.text?).toList }

/-- The run after an event.  The moment at which the program is told to stop comes once. -/
def advance (w : Circumstances) (e : Deadline.Event (Except Trouble Unit)) (r : Run) : Run :=
  let next := { r with deadline := r.deadline.step e }
  if next.deadline.aborted && !r.deadline.aborted then next.fire w else next

/-- The event of a happening. -/
def eventOf : Happening → Deadline.Event (Except Trouble Unit)
  | .cancels => .cancelled
  | .passes milliseconds => .passed milliseconds

/-- The run after happenings. -/
def happen (w : Circumstances) (happenings : List Happening) (r : Run) : Run :=
  happenings.foldl (fun r h => r.advance w (eventOf h)) r

/-- The run when a call is never answered: its time passes. -/
def exhaust (w : Circumstances) (r : Run) : Run :=
  r.advance w (.passed (Deadline.due r.deadline.limit - r.deadline.clock))

/-- Arranges a call, or takes back what is arranged.  It is too late for that when the program has
been told to stop. -/
def arrange (release : Option Call) (r : Run) : Run :=
  { r with release := if r.deadline.aborted then none else release }

end Run

namespace Probe

/-- The run of a program in circumstances, from where a run has come. -/
def play (w : Circumstances) : Check Unit → Run → Run
  | .done outcome, r => r.advance w (.settled outcome)
  | .perform call next, r =>
    let a := w.answer r call
    let r := r.record call
    play w (next a.outcome) (if a.cancels then r.advance w .cancelled else r)
  | .await call next, r =>
    let x := w.waiting r call
    let r := ((r.record call).advance w .suspended).happen w x.happenings
    match x.reply with
    | some reply => play w (next reply) r
    | none => r.exhaust w
  | .arrange release next, r => play w next (r.arrange release)
  | .look next, r => play w (next r.deadline.aborted) r
  | .draw next, r => play w (next (w.freshId r.drawn)) { r with drawn := r.drawn + 1 }

end Probe

/-! ### Every run comes to a verdict -/

namespace Run

variable (w : Circumstances)

@[simp] theorem deadline_fire (r : Run) : (r.fire w).deadline = r.deadline := by
  unfold fire; split <;> rfl

@[simp] theorem deadline_advance (e : Deadline.Event (Except Trouble Unit)) (r : Run) :
    (r.advance w e).deadline = r.deadline.step e := by
  unfold advance; dsimp only; split <;> simp

theorem hasStarted_happen (happenings : List Happening) {r : Run}
    (h : r.deadline.hasStarted = true) : (r.happen w happenings).deadline.hasStarted = true := by
  unfold happen
  induction happenings generalizing r with
  | nil => exact h
  | cons x rest ih =>
    refine ih (r := r.advance w (eventOf x)) ?_
    rw [deadline_advance]
    exact Deadline.hasStarted_step h _

end Run

namespace Probe

/-- **Every run of a test comes to a verdict**, also in circumstances that leave a call without an
answer. -/
theorem play_decided (w : Circumstances) (c : Check Unit) (r : Run) :
    (play w c r).deadline.verdict?.isSome = true := by
  induction c generalizing r with
  | done outcome =>
    simp only [play, Run.deadline_advance]
    exact Deadline.verdict_settle outcome r.deadline
  | perform call next ih => exact ih _ _
  | await call next ih =>
    simp only [play]
    split
    · exact ih _ _
    · simp only [Run.exhaust, Run.deadline_advance]
      refine Deadline.verdict_exhaust (Run.hasStarted_happen w _ ?_)
      simp only [Run.deadline_advance]
      exact Deadline.hasStarted_suspend _
  | arrange release next ih => exact ih _
  | look next ih => exact ih _ _
  | draw next ih => exact ih _ _

end Probe

end Depository
