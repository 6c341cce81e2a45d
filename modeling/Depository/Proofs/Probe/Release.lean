import Depository.Probe.Test
import Mathlib.Data.List.Basic

/-!
# What is called when a program is told to stop

A program that opens a session arranges what ends it when the program is told to stop.  From then on
it is owed one call: either the call is still arranged and was not made, or the program was told to
stop and just that made it.  Whatever happens keeps this (`Run.Guards.advance`).
Where nothing is arranged, nothing is called (`Run.advance_of_free`).

* `Method.times` — how many of the calls are of a kind;
* `Deadline.IsUnderWay`, `Deadline.IsOpen` — nothing was decided about the work, and it was not told
  to stop, or perhaps it was;
* `Run.Guards` — the arrangement is there, or it was used;
* `Probe.exists_play_perform`, `Probe.exists_play_await` — a call while nothing is arranged.
-/

namespace Depository

/-- How many of the calls are of a kind. -/
def Method.times (m : Method) (calls : List Call) : Nat := calls.countP fun c => c.method = m

namespace Method

variable {m : Method} {call : Call}

theorem times_concat_of_eq (h : call.method = m) (calls : List Call) :
    m.times (calls ++ [call]) = m.times calls + 1 := by
  simp [times, h]

theorem times_concat_self (calls : List Call) :
    call.method.times (calls ++ [call]) = call.method.times calls + 1 :=
  times_concat_of_eq rfl calls

theorem times_concat_of_ne (h : call.method ≠ m) (calls : List Call) :
    m.times (calls ++ [call]) = m.times calls := by
  simp [times, h]

end Method

/-! ### Work that is under way -/

namespace Deadline

variable {α : Type} {d : Deadline α}

/-- Work that was told to stop has been told for ever. -/
theorem aborted_step (h : d.aborted = true) (e : Event α) : (d.step e).aborted = true := by
  obtain ⟨limit, clock, aborted, phase⟩ := d
  obtain rfl : aborted = true := h
  cases e with
  | settled x => cases phase <;> rfl
  | threw x => cases phase <;> rfl
  | suspended =>
    cases phase with
    | starting pending => cases pending <;> rfl
    | _ => rfl
  | cancelled => cases phase <;> rfl
  | passed milliseconds =>
    cases phase with
    | running => simp only [step, pass, interrupt]; split <;> rfl
    | _ => rfl
  | delivered => cases phase <;> rfl

/-- Nothing was decided about the work, and it was not told to stop. -/
structure IsUnderWay (d : Deadline α) : Prop where
  untold : d.aborted = false
  undecided : d.phase = .starting none ∨ d.phase = .running

/-- The event is not the end of the work by its own doing. -/
def Event.IsOutward : Event α → Prop
  | .suspended | .cancelled | .passed _ | .delivered => True
  | .settled _ | .threw _ => False

/-- Such an event leaves the work under way, or it tells the work to stop. -/
theorem IsUnderWay.step (h : d.IsUnderWay) {e : Event α} (he : e.IsOutward) :
    (d.step e).IsUnderWay ∨ (d.step e).aborted = true := by
  obtain ⟨limit, clock, aborted, phase⟩ := d
  obtain ⟨rfl, rfl | rfl⟩ := h
  · cases e with
    | suspended => exact .inl ⟨rfl, .inr rfl⟩
    | cancelled => exact .inr rfl
    | passed milliseconds => exact .inl ⟨rfl, .inl rfl⟩
    | delivered => exact .inl ⟨rfl, .inl rfl⟩
    | settled | threw => exact he.elim
  · cases e with
    | suspended => exact .inl ⟨rfl, .inr rfl⟩
    | cancelled => exact .inr rfl
    | passed milliseconds =>
      simp only [Deadline.step, pass, interrupt]
      split
      · exact .inr rfl
      · exact .inl ⟨rfl, .inr rfl⟩
    | delivered => exact .inl ⟨rfl, .inr rfl⟩
    | settled | threw => exact he.elim

/-- The work is under way, or it was told to stop: it did not come to an end by itself. -/
def IsOpen (d : Deadline α) : Prop := d.IsUnderWay ∨ d.aborted = true

theorem IsOpen.step (h : d.IsOpen) {e : Event α} (he : e.IsOutward) : (d.step e).IsOpen := by
  rcases h with hunder | htold
  · exact hunder.step he
  · exact .inr (aborted_step htold e)

/-- Open work that waits is told to stop when all its time passes. -/
theorem IsOpen.aborted_of_due (h : d.IsOpen) (hs : d.hasStarted = true) :
    (d.step (.passed (due d.limit - d.clock))).aborted = true := by
  rcases h with hunder | htold
  · obtain ⟨limit, clock, aborted, phase⟩ := d
    obtain ⟨rfl, rfl | rfl⟩ := hunder
    · cases hs
    · have hdue : due limit ≤ clock + (due limit - clock) := by omega
      simp [Deadline.step, pass, interrupt, hdue]
  · exact aborted_step htold _

end Deadline

/-! ### What happens to the calls -/

namespace Run

variable {w : Circumstances} {r : Run} {call : Call}

theorem isOutward_eventOf (h : Happening) : (eventOf h).IsOutward := by cases h <;> trivial

/-- What happens while a call is waited for leaves the work open. -/
theorem isOpen_happen (h : r.deadline.IsOpen) (happenings : List Happening) :
    (r.happen w happenings).deadline.IsOpen := by
  unfold happen
  induction happenings generalizing r with
  | nil => exact h
  | cons x rest ih =>
    refine ih (r := r.advance w (eventOf x)) ?_
    rw [deadline_advance]
    exact h.step (isOutward_eventOf x)

/-- Where nothing is arranged, an event does nothing but to the deadline. -/
theorem advance_of_free (h : r.release = none) (e : Deadline.Event (Except Trouble Unit)) :
    r.advance w e = { r with deadline := r.deadline.step e } := by
  unfold advance
  dsimp only
  split
  · rw [fire, h]
  · rfl

/-- Where nothing is arranged, nothing is called whatever happens, and nothing is arranged
afterwards. -/
theorem happen_of_free (h : r.release = none) (happenings : List Happening) :
    (r.happen w happenings).calls = r.calls ∧ (r.happen w happenings).release = none := by
  unfold happen
  induction happenings generalizing r with
  | nil => exact ⟨rfl, h⟩
  | cons x rest ih =>
    rw [List.foldl_cons, advance_of_free h]
    exact ih (r := { r with deadline := r.deadline.step (eventOf x) }) h

/-- The call is arranged and was not made, or the program was told to stop and the call was made
just then. -/
inductive Guards (call : Call) (r : Run) : Prop
  | armed (underWay : r.deadline.IsUnderWay) (release : r.release = some call)
      (unmade : call.method.times r.calls = 0)
  | fired (told : r.deadline.aborted = true) (release : r.release = none)
      (once : call.method.times r.calls = 1)

namespace Guards

/-- **Whatever happens to the program keeps the guard**: the moment at which the program is told to
stop makes the call and takes away the arrangement. -/
theorem advance (h : r.Guards call) {e : Deadline.Event (Except Trouble Unit)}
    (he : e.IsOutward) : (r.advance w e).Guards call := by
  cases h with
  | armed underWay release unmade =>
    rcases underWay.step he with hunder | htold
    · have hsame : r.advance w e = { r with deadline := r.deadline.step e } := by
        unfold Run.advance
        simp [hunder.untold]
      rw [hsame]
      exact .armed hunder release unmade
    · have hfire : r.advance w e = Run.fire w { r with deadline := r.deadline.step e } := by
        unfold Run.advance
        simp [htold, underWay.untold]
      rw [hfire, fire]
      simp only [release]
      refine .fired htold rfl ?_
      rw [Method.times_concat_self, unmade]
  | fired told release once =>
    rw [advance_of_free release]
    exact .fired (Deadline.aborted_step told e) release once

/-- Another call does not touch the guard. -/
theorem record (h : r.Guards call) {other : Call} (hne : other.method ≠ call.method) :
    (r.record other).Guards call := by
  cases h with
  | armed underWay release unmade =>
    exact .armed underWay release ((Method.times_concat_of_ne hne _).trans unmade)
  | fired told release once =>
    exact .fired told release ((Method.times_concat_of_ne hne _).trans once)

/-- The call was made just if the program was told to stop. -/
theorem times_eq (h : r.Guards call) :
    call.method.times r.calls = if r.deadline.aborted then 1 else 0 := by
  cases h with
  | armed underWay _ unmade => rw [unmade, underWay.untold, if_neg (by simp)]
  | fired told _ once => rw [once, if_pos told]

theorem times_le_one (h : r.Guards call) : call.method.times r.calls ≤ 1 := by
  rw [h.times_eq]
  split <;> decide

end Guards

end Run

/-! ### Programs that arrange nothing -/

namespace Probe

variable {w : Circumstances} {r : Run}

/-- A call that is answered at once while nothing is arranged is the one call that is made. -/
theorem exists_play_perform (h : r.release = none) (call : Call)
    (next : Except Trouble Unit → Check Unit) :
    ∃ r' : Run, r'.calls = r.calls ++ [call] ∧ r'.release = none ∧
      play w (.perform call next) r = play w (next (w.answer r call).outcome) r' := by
  have hrecord : (r.record call).release = none := h
  rw [play]
  split
  · rw [Run.advance_of_free hrecord]
    refine ⟨_, ?_, ?_, rfl⟩
    · rfl
    · exact hrecord
  · exact ⟨r.record call, rfl, hrecord, rfl⟩

/-- **A call that is waited for while nothing is arranged** is the one call that is made meanwhile.
Then the program goes on with the answer, or it never does. -/
theorem exists_play_await (h : r.release = none) (call : Call)
    (next : Except Trouble Json → Check Unit) :
    ∃ r' : Run, r'.calls = r.calls ++ [call] ∧ r'.release = none ∧
      play w (.await call next) r =
        (w.waiting r call).reply.elim r' fun reply => play w (next reply) r' := by
  have hrecord : (r.record call).release = none := h
  let waiting : Run := { r.record call with deadline := r.deadline.step .suspended }
  let called : Run := waiting.happen w (w.waiting r call).happenings
  obtain ⟨hcalls, hfree⟩ : called.calls = waiting.calls ∧ called.release = none :=
    Run.happen_of_free (r := waiting) hrecord _
  rw [play, Run.advance_of_free hrecord]
  cases (w.waiting r call).reply with
  | none =>
    have hexhaust : called.exhaust w = { called with deadline := _ } := Run.advance_of_free hfree _
    refine ⟨called.exhaust w, ?_, ?_, rfl⟩
    · rw [hexhaust]
      exact hcalls
    · rw [hexhaust]
      exact hfree
  | some reply => exact ⟨called, hcalls, hfree, rfl⟩

/-- A program that is over makes no call where nothing is arranged. -/
theorem calls_play_done (h : r.release = none) (outcome : Except Trouble Unit) :
    (play w (.done outcome) r).calls = r.calls := by
  rw [play, Run.advance_of_free h]

theorem calls_report (b : Backend) (f : Finding) (r : Run) : (report b f r).calls = r.calls := by
  cases f <;> rfl

end Probe

end Depository
