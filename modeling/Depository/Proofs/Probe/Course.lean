import Depository.Proofs.Probe.Law
import Depository.Proofs.Probe.Session

/-!
# What a program does on its course

A program is followed past the moment at which its caller has had the verdict, so the clock and the
verdict are left out here: what counts is which calls were made, what those came to that were waited
for, and what is arranged.  Between two steps of the program this changes in one way only, which is
that the program is told to stop and the arranged call is made (`Course.tell`).  As that can happen
at any time, a program that is to keep an invariant in every order of events has to keep it with and
without that change after each call; `Course.law` says just this.

* `Course`, `Course.Drifts` — what was done, and how it changes while the program does not go on;
* `Course.law` — an invariant that holds while the program is not over;
* `Session.follows_proceed`, `Session.Follows.step` — a session whose program obeys the law keeps
  doing so;
* `Session.Follows.after` — **what a program keeps by the law holds in every order of events**.
-/

namespace Depository

/-- What a program did so far. -/
structure Course where
  calls : List Call
  /-- What the calls that were waited for have come to, in order. -/
  replies : List (Call × Except Trouble Json)
  /-- What is called when the program is told to stop. -/
  release : Option Call

namespace Course

variable {c d e : Course} {call : Call} {reply : Except Trouble Json}

/-- The course of a program that has done nothing. -/
def empty : Course := ⟨[], [], none⟩

/-- The course with one more call. -/
def record (call : Call) (c : Course) : Course := { c with calls := c.calls ++ [call] }

/-- The course when a call has settled. -/
def hear (call : Call) (reply : Except Trouble Json) (c : Course) : Course :=
  { c with replies := c.replies ++ [(call, reply)] }

/-- The course when the program is told to stop. -/
def tell (c : Course) : Course :=
  { c with calls := c.calls ++ c.release.toList, release := none }

/-- The course where the program does not go on: it may be told to stop. -/
inductive Drifts (c : Course) : Course → Prop
  | still : c.Drifts c
  | told : c.Drifts c.tell

theorem tell_of_free (h : c.release = none) : c.tell = c := by
  obtain ⟨calls, replies, release⟩ := c
  obtain rfl : release = none := h
  simp [tell]

theorem drifts_of_free (h : c.release = none) : c.Drifts d ↔ d = c := by
  refine ⟨fun hd => ?_, fun hd => hd ▸ .still⟩
  cases hd with
  | still => rfl
  | told => exact tell_of_free h

theorem Drifts.trans (hd : c.Drifts d) (he : d.Drifts e) : c.Drifts e := by
  cases hd with
  | still => exact he
  | told =>
    rw [(drifts_of_free (c := c.tell) rfl).1 he]
    exact .told

/-- Whether a call settles before or after the program is told to stop makes no difference. -/
theorem Drifts.of_hear (h : (c.hear call reply).Drifts e) :
    ∃ d, c.Drifts d ∧ e = d.hear call reply := by
  cases h with
  | still => exact ⟨c, .still, rfl⟩
  | told => exact ⟨c.tell, .told, rfl⟩

/-- `I` holds while the program is not over, whenever it is told to stop. -/
def law (I : Course → Prop) : Law Course where
  perform call c after := ∀ d, (c.record call).Drifts d → after d
  await call c after := ∀ d, (c.record call).Drifts d →
    I d ∧ ∀ reply, I (d.hear call reply) ∧ after reply (d.hear call reply)
  arrange release c after := ∀ arranged ∈ [none, release], after { c with release := arranged }
  look c after := ∀ told, after told c

/-- At its end a program has taken back what it arranged, and `K` holds. -/
def Ends (K : Course → Prop) (_ : Except Trouble Unit) (c : Course) : Prop :=
  c.release = none ∧ K c

end Course

namespace Course

open Check (Obeys run request obeys_run obeys_request)

variable {c : Course} {call : Call} {I : Course → Prop}

/-! ### Calls while nothing is arranged -/

theorem obeys_run_of_free (h : c.release = none) {K : Except Trouble Unit → Course → Prop} :
    (run call).Obeys (law I) K c ↔ ∀ r, K r (c.record call) := by
  rw [obeys_run]
  refine ⟨fun hk => hk _ .still, fun hk d hd => ?_⟩
  rw [(drifts_of_free (c := c.record call) h).1 hd]
  exact hk

theorem obeys_request_of_free (h : c.release = none) {K : Except Trouble Unit → Course → Prop} :
    (request call).Obeys (law I) K c ↔ I (c.record call) ∧ ∀ reply,
      I ((c.record call).hear call reply) ∧
        K (reply.map fun _ => ()) ((c.record call).hear call reply) := by
  rw [obeys_request]
  refine ⟨fun hk => hk _ .still, fun hk d hd => ?_⟩
  rw [(drifts_of_free (c := c.record call) h).1 hd]
  exact hk

/-- Every program obeys the law that asks for nothing. -/
theorem obeys_trivial {α : Type} {K : Except Trouble α → Course → Prop} (hK : ∀ r d, K r d)
    (p : Check α) (c : Course) : p.Obeys (law fun _ => True) K c := by
  induction p generalizing c with
  | done outcome => exact hK _ _
  | perform call next ih => exact fun d _ r => ih r d
  | await call next ih => exact fun d _ => ⟨trivial, fun reply => ⟨trivial, ih reply _⟩⟩
  | arrange release next ih => exact fun _ _ => ih _
  | look next ih => exact fun told => ih told c
  | draw next ih => exact fun id => ih id c

end Course

open Course (Ends)

/-- What a run and the replies in it tell of the course. -/
def Run.course (r : Run) (replies : List (Call × Except Trouble Json)) : Course :=
  ⟨r.calls, replies, r.release⟩

theorem Run.drifts_advance (w : Circumstances) (r : Run)
    (replies : List (Call × Except Trouble Json)) (e : Deadline.Event (Except Trouble Unit)) :
    (r.course replies).Drifts ((r.advance w e).course replies) := by
  obtain ⟨calls, deadline, release, notes, drawn⟩ := r
  unfold advance
  dsimp only
  split
  · cases release with
    | none => exact .still
    | some call => exact .told
  · exact .still

namespace Session

variable {w : Circumstances} {s : Session} {I K : Course → Prop}

/-- What the program of a session did so far. -/
def course (s : Session) : Course := s.run.course s.replies

/-- What is left of the program obeys the law, also if it is told to stop before it goes on. -/
inductive Follows (I K : Course → Prop) (s : Session) : Prop
  | waits (call : Call) (next : Except Trouble Json → Check Unit)
    (stage : s.stage = .waits call next)
    (obeys : ∀ d, s.course.Drifts d → I d ∧ ∀ reply, I (d.hear call reply) ∧
      (next reply).Obeys (Course.law I) (Ends K) (d.hear call reply))
  | settled (call : Call) (reply : Except Trouble Json) (next : Except Trouble Json → Check Unit)
    (stage : s.stage = .settled call reply next)
    (obeys : ∀ d, s.course.Drifts d → I d ∧ (next reply).Obeys (Course.law I) (Ends K) d)
  | finished (stage : s.stage = .finished) (ends : s.course.release = none ∧ K s.course)

theorem drifts_performed (w : Circumstances) (s : Session) (call : Call) :
    (s.course.record call).Drifts (s.performed w call).course := by
  show (s.course.record call).Drifts ((if _ then _ else _ : Run).course s.replies)
  split
  · exact (s.run.record call).drifts_advance w s.replies .cancelled
  · exact .still

/-- A program that obeys the law goes on to where it waits for the next time. -/
theorem follows_proceed (c : Check Unit) (s : Session)
    (h : c.Obeys (Course.law I) (Ends K) s.course) : (proceed w c s).Follows I K := by
  induction c generalizing s with
  | done outcome =>
    obtain ⟨hfree, hends⟩ := h
    have hsame : (proceed w (.done outcome) s).course = s.course :=
      (Course.drifts_of_free hfree).1 (s.run.drifts_advance w s.replies (.settled outcome))
    refine .finished rfl ?_
    rw [hsame]
    exact ⟨hfree, hends⟩
  | perform call next ih => exact ih _ _ (h _ (drifts_performed w s call) _)
  | await call next ih =>
    refine .waits call next rfl fun d hd => h d ?_
    exact ((s.run.record call).drifts_advance w s.replies .suspended).trans hd
  | arrange release next ih =>
    refine ih _ (h (if s.run.deadline.aborted then none else release) ?_)
    split <;> simp
  | look next ih => exact ih _ s (h _)
  | draw next ih => exact ih _ _ (h _)

namespace Follows

/-- The session stays on its course while the program does not go on. -/
theorem drift (h : s.Follows I K) {r : Run} (hd : s.course.Drifts (r.course s.replies)) :
    Follows I K { s with run := r } := by
  cases h with
  | waits call next stage obeys =>
    exact .waits call next stage fun d hd' => obeys d (hd.trans hd')
  | settled call reply next stage obeys =>
    exact .settled call reply next stage fun d hd' => obeys d (hd.trans hd')
  | finished stage ends =>
    refine .finished stage ?_
    show (r.course s.replies).release = none ∧ K (r.course s.replies)
    rwa [(Course.drifts_of_free ends.1).1 hd]

theorem step (h : s.Follows I K) (m : Moment) : (s.step w m).Follows I K := by
  cases m with
  | happens x => exact h.drift (s.run.drifts_advance w s.replies _)
  | delivers => exact h.drift (s.run.drifts_advance w s.replies _)
  | settles reply =>
    cases h with
    | waits call next stage obeys =>
      rw [Session.step, stage]
      refine .settled call reply next rfl fun e he => ?_
      obtain ⟨d, hd, rfl⟩ := Course.Drifts.of_hear (c := s.course) he
      exact (obeys d hd).2 reply
    | settled call other next stage obeys =>
      rw [Session.step, stage]
      exact .settled call other next stage obeys
    | finished stage ends =>
      rw [Session.step, stage]
      exact .finished stage ends
  | resumes =>
    cases h with
    | waits call next stage obeys =>
      rw [Session.step, stage]
      exact .waits call next stage obeys
    | settled call reply next stage obeys =>
      rw [Session.step, stage]
      exact follows_proceed _ s (obeys s.course .still).2
    | finished stage ends =>
      rw [Session.step, stage]
      exact .finished stage ends

/-- What holds of the course: `I` as long as the program is not over, then `K`. -/
theorem course (h : s.Follows I K) :
    (s.stage = .finished → K s.course) ∧ (s.stage ≠ .finished → I s.course) := by
  cases h with
  | waits call next stage obeys =>
    exact ⟨fun hover => absurd (stage.symm.trans hover) (by simp), fun _ => (obeys _ .still).1⟩
  | settled call reply next stage obeys =>
    exact ⟨fun hover => absurd (stage.symm.trans hover) (by simp), fun _ => (obeys _ .still).1⟩
  | finished stage ends => exact ⟨fun _ => ends.2, fun hnot => absurd stage hnot⟩

end Follows

/-- **What a program keeps by the law holds in every order of events**: `K` when it is over, and `I`
before that. -/
theorem Follows.after (h : s.Follows I K) (moments : List Moment) :
    let x := s.after w moments
    (x.stage = .finished → K x.course) ∧ (x.stage ≠ .finished → I x.course) :=
  (after_induction (P := Follows I K) (fun _ m hs => hs.step m) h moments).course

/-- What follows from both holds at any time. -/
theorem Follows.always (h : s.Follows I K) (moments : List Moment) {P : Course → Prop}
    (hI : ∀ c, I c → P c) (hK : ∀ c, K c → P c) : P (s.after w moments).course :=
  (em _).elim (fun hover => hK _ ((h.after moments).1 hover))
    fun hunder => hI _ ((h.after moments).2 hunder)

/-- The session before the first step of a program. -/
def unstarted (limit : Number) : Session := ⟨fresh limit, .finished, [], none⟩

/-- A program that obeys the law keeps to it from its start. -/
theorem follows_start {c : Check Unit} (limit : Number)
    (h : c.Obeys (Course.law I) (Ends K) .empty) : (start w c (fresh limit)).Follows I K :=
  follows_proceed c (unstarted limit) h

end Session

end Depository
