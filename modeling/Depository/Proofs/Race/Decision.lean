import Depository.Proofs.Race.Simulation

/-!
# The first event settles a race

Which verdict a race comes to can be read off its events alone: it is the one of the first event
that decides.  The rest is about the moments around it.  The result is told by jobs that run
later; by then the work has been told to stop if it was interrupted, and from then on nothing
reaches it any more.

* `Race.decision` — the first event that decides, and `Race.verdict_run`: it is the verdict;
* `Race.result_drain` — a verdict that has fallen is handed over;
* `Race.run_result` — a race that has told its result lets go;
* `Race.first_event_settles` — all of it for a race from its start.
-/

namespace Depository

namespace Deadline

variable {α : Type}

/-! ### Interrupted work has been told to stop -/

/-- What has cut work short so far. -/
def interruption? (d : Deadline α) : Option Interruption :=
  match d.phase with
  | .starting pending => pending
  | .decided (.interrupted cause) | .released (.interrupted cause) => some cause
  | .running | .decided (.own _) | .released (.own _) => none

/-- Work that is cut short has been told so. -/
def IsTold (d : Deadline α) : Prop := d.interruption?.isSome = true → d.aborted = true

theorem isTold_step {d : Deadline α} (h : d.IsTold) (e : Event α) : (d.step e).IsTold := by
  obtain ⟨limit, clock, aborted, phase⟩ := d
  cases phase with
  | starting pending =>
    cases pending <;> cases e <;>
      simp_all [IsTold, interruption?, step, settle, throw, suspend, interrupt, pass, deliver]
  | running =>
    cases e with
    | passed milliseconds =>
      simp only [step, pass, interrupt]
      split <;> simp [IsTold, interruption?]
    | _ => simp [IsTold, interruption?, step, settle, throw, suspend, interrupt, deliver]
  | decided v =>
    cases v <;> cases e <;>
      simp_all [IsTold, interruption?, step, settle, throw, suspend, interrupt, pass, deliver]
  | released v =>
    cases v <;> cases e <;>
      simp_all [IsTold, interruption?, step, settle, throw, suspend, interrupt, pass, deliver]

theorem isTold_run {d : Deadline α} (h : d.IsTold) (events : List (Event α)) :
    (d.run events).IsTold := by
  induction events generalizing d with
  | nil => exact h
  | cons e rest ih => exact ih (isTold_step h e)

theorem phase_of_verdict {d : Deadline α} {v : Verdict α} (h : d.verdict? = some v) :
    d.phase = .decided v ∨ d.phase = .released v := by
  obtain ⟨limit, clock, aborted, phase⟩ := d
  cases phase with
  | starting _ | running => cases h
  | decided w | released w => simpa [verdict?] using h

theorem run_released {d : Deadline α} {v : Verdict α} (h : d.phase = .released v)
    (events : List (Event α)) :
    (d.run events).phase = .released v ∧ (d.run events).aborted = d.aborted := by
  induction events generalizing d with
  | nil => exact ⟨h, rfl⟩
  | cons e rest ih =>
    obtain ⟨hp, ha⟩ := step_released h e
    exact ⟨(ih hp).1, (ih hp).2.trans ha⟩

end Deadline

namespace Race

variable {α : Type} {caller : Caller} {r : Race α} {d : Deadline α}

/-! ### Which event decides -/

/-- Events can come in this order, after some with which the call of the work has ended (`called`)
or the work has `settled`.  The caller does not give up while the work is being called, and a call
that fails leaves no work behind that could have settled before. -/
def isPossible (called settled : Bool) : List (Event α) → Bool
  | [] => true
  | .settles _ :: rest => isPossible called true rest
  | .returned :: rest => isPossible true settled rest
  | .threw _ :: rest => !called && !settled && isPossible true settled rest
  | .cancelled :: rest => called && isPossible called settled rest
  | .listens _ :: rest | .passes _ :: rest | .next :: rest => isPossible called settled rest

/-- The verdict of the first event that decides: the work settles or its call fails, the caller
gives up, or the time is over.  Time counts from the start, but is looked at only once the work has
been `called`. -/
def decision (limit : Number) (caller : Caller) (called : Bool) (elapsed : Nat) :
    List (Event α) → Option (Verdict α)
  | [] => none
  | .settles x :: _ | .threw x :: _ => some (.own x)
  | .cancelled :: rest =>
    if caller = .live then some (.interrupted .cancellation)
    else decision limit caller called elapsed rest
  | .passes milliseconds :: rest =>
    if called ∧ Deadline.due limit ≤ elapsed + milliseconds then some (.interrupted .timeout)
    else decision limit caller called (elapsed + milliseconds) rest
  | .returned :: rest => decision limit caller true elapsed rest
  | .listens _ :: rest | .next :: rest => decision limit caller called elapsed rest

/-- The phase of work for which nothing is decided. -/
def undecided (called : Bool) : Deadline.Phase α := if called then .running else .starting none

theorem open_of_undecided {called : Bool} (h : Stands caller r d.phase)
    (hp : d.phase = undecided called) : Open caller r ∧ r.joined = called := by
  rw [hp] at h
  cases called with
  | false => cases h with | calling hj ho => exact ⟨ho, hj⟩
  | true => cases h with | running hj ho => exact ⟨ho, hj⟩

section Undecided

variable {limit : Number} {clock milliseconds : Nat} {aborted called : Bool}

theorem suspend_undecided :
    (⟨limit, clock, aborted, undecided called⟩ : Deadline α).run [.suspended] =
      ⟨limit, clock, aborted, undecided true⟩ := by
  cases called <;> rfl

theorem verdict_interrupt (cause : Interruption) :
    (Deadline.interrupt cause
      (⟨limit, clock, aborted, undecided true⟩ : Deadline α)).verdict? =
        some (.interrupted cause) := rfl

theorem verdict_due (hdue : Deadline.due limit ≤ clock + milliseconds) :
    (Deadline.pass milliseconds
      (⟨limit, clock, aborted, undecided true⟩ : Deadline α)).verdict? =
        some (.interrupted .timeout) := by
  rw [Deadline.pass_due rfl hdue]
  rfl

theorem pass_undecided
    (hearly : ¬(called = true ∧ Deadline.due limit ≤ clock + milliseconds)) :
    (⟨limit, clock, aborted, undecided called⟩ : Deadline α).run [.passed milliseconds] =
      ⟨limit, clock + milliseconds, aborted, undecided called⟩ := by
  refine Deadline.pass_early ?_
  cases called with
  | false => rintro ⟨⟩
  | true => exact fun _ hdue => hearly ⟨rfl, hdue⟩

end Undecided

/-- The verdict of work is the one of the first event that decides. -/
theorem verdict_run {events : List (Event α)} {called : Bool} (h : Sim caller r d)
    (hd : d.phase = undecided called) (hp : isPossible called false events = true) :
    (d.run (r.trace events)).verdict? = decision d.limit caller called d.clock events := by
  induction events generalizing r d called with
  | nil => cases called <;> simp [trace, Deadline.run, Deadline.verdict?, hd, undecided, decision]
  | cons e rest ih =>
    obtain ⟨ho, hj⟩ := open_of_undecided h.stands hd
    obtain ⟨limit, clock, aborted, phase⟩ := d
    subst hd
    rw [trace, Deadline.run_append]
    cases e with
    | listens x => exact ih (sim_listen h x) rfl hp
    | settles x => exact Deadline.run_verdict (by cases called <;> rfl) _
    | returned =>
      have hsim : Sim caller r.join _ := sim_step h .returned (by rintro x ⟨⟩)
      simp only [moves, suspend_undecided] at hsim ⊢
      exact ih hsim rfl hp
    | threw x =>
      simp only [isPossible, Bool.and_eq_true, Bool.not_eq_true'] at hp
      obtain ⟨⟨rfl, -⟩, -⟩ := hp
      exact Deadline.run_verdict rfl _
    | cancelled =>
      simp only [isPossible, Bool.and_eq_true] at hp
      obtain ⟨rfl, hp⟩ := hp
      have hsim := sim_cancel h
      simp only [moves, decision, ho.hears] at hsim ⊢
      cases hl : caller == .live with
      | true =>
        rw [if_pos rfl, if_pos (by simpa using hl)]
        exact Deadline.run_verdict (Deadline.run_verdict (verdict_interrupt _) r.answers) _
      | false =>
        rw [hl] at hsim
        rw [if_neg (by simp), if_neg (by simpa using hl)]
        exact ih hsim rfl hp
    | passes milliseconds =>
      have hface := h.face
      simp only [face, Prod.mk.injEq] at hface
      obtain ⟨hlimit, hclock, -⟩ := hface
      have hrings : (r.wait milliseconds).rings =
          (called && decide (Deadline.due limit ≤ clock + milliseconds)) := by
        rw [rings_wait ho, hj, hlimit, hclock]
      have hsim := sim_pass h milliseconds
      simp only [moves, decision, hrings, Bool.and_eq_true, decide_eq_true_eq] at hsim ⊢
      by_cases hdue : called = true ∧ Deadline.due limit ≤ clock + milliseconds
      · obtain ⟨rfl, hdue⟩ := hdue
        rw [if_pos ⟨rfl, hdue⟩, if_pos ⟨rfl, hdue⟩]
        exact Deadline.run_verdict (Deadline.run_verdict (verdict_due hdue) r.answers) _
      · rw [if_neg hdue, pass_undecided hdue] at hsim ⊢
        rw [if_neg hdue]
        exact ih hsim rfl hp
    | next =>
      have hsim := sim_deliver h
      simp only [moves, ho.jobs] at hsim ⊢
      exact ih hsim rfl hp

/-! ### The call of the work comes to an end once -/

theorem isCalling_arrive (v : Verdict α) (r : Race α) : (r.arrive v).isCalling = r.isCalling := by
  unfold arrive; split <;> rfl

theorem isCalling_settle (x : α) (r : Race α) : (r.settle x).isCalling = r.isCalling := by
  unfold settle
  split
  · exact isCalling_arrive _ _
  · rfl

theorem isCalling_reject (r : Race α) : r.reject.isCalling = r.isCalling := by
  unfold reject
  split
  · exact isCalling_arrive _ _
  · rfl

theorem isCalling_hear (listeners : List (Listener α)) (r : Race α) :
    (listeners.foldl hear r).isCalling = r.isCalling := by
  induction listeners generalizing r with
  | nil => rfl
  | cons l rest ih =>
    cases l with
    | race => exact (ih _).trans (isCalling_reject r)
    | work x => exact (ih _).trans (isCalling_settle x r)

theorem isCalling_fire (r : Race α) : r.fire.isCalling = r.isCalling := by
  unfold fire
  split
  · rfl
  · exact isCalling_hear _ _

theorem isCalling_cancel (r : Race α) : r.cancel.isCalling = r.isCalling := by
  unfold cancel
  split
  · exact isCalling_fire _
  · rfl

theorem isCalling_pass (milliseconds : Nat) (r : Race α) :
    (r.pass milliseconds).isCalling = r.isCalling := by
  unfold pass
  split
  · exact isCalling_fire _
  · rfl

theorem isCalling_join (r : Race α) : r.join.isCalling = false := by
  cases hc : r.isCalling with
  | true => rw [join_calling hc]; rfl
  | false => rw [show r.join = r by simp [join, hc]]; exact hc

theorem isCalling_throw (x : α) (r : Race α) : (r.throw x).isCalling = false := by
  unfold throw
  cases hc : r.isCalling with
  | true => simp [release, isCalling]
  | false => exact hc

theorem isCalling_deliver (h : r.isCalling = false) : r.deliver.isCalling = false := by
  unfold deliver
  split <;> simp_all [isCalling, release]

theorem isCalling_step (h : r.isCalling = false) (e : Event α) : (r.step e).isCalling = false := by
  cases e with
  | listens x => rw [step, listen]; split <;> exact h
  | settles x => exact (isCalling_settle x r).trans h
  | returned => exact isCalling_join r
  | threw x => exact isCalling_throw x r
  | cancelled => exact (isCalling_cancel r).trans h
  | passes milliseconds => exact (isCalling_pass milliseconds r).trans h
  | next => exact isCalling_deliver h

theorem isCalling_run (h : r.isCalling = false) (events : List (Event α)) :
    (r.run events).isCalling = false := by
  induction events generalizing r with
  | nil => exact h
  | cons e rest ih => exact ih (isCalling_step h e)

theorem isCalling_of_step {e : Event α} (h : (r.step e).isCalling = true) :
    r.isCalling = true := by
  cases hc : r.isCalling with
  | true => rfl
  | false => rw [isCalling_step hc e] at h; cases h

/-- What does not settle the work, while it is being called. -/
theorem settled_pass (h : r.isCalling = true) (milliseconds : Nat) :
    (r.pass milliseconds).settled = r.settled := by
  have hj : r.joined = false := by
    simp only [isCalling, Bool.and_eq_true, Bool.not_eq_true'] at h
    exact h.1
  simp [pass, rings, wait, hj]

theorem settled_deliver (r : Race α) : r.deliver.settled = r.settled := by
  unfold deliver
  split <;> rfl

theorem settled_listen (l : Listener α) (r : Race α) : (r.listen l).settled = r.settled := by
  unfold listen
  split <;> rfl

/-- What the events so far say about the call of the work. -/
structure Tells (called settled : Bool) (r : Race α) : Prop where
  isOver : called = true → r.isCalling = false
  isUnsettled : settled = false → r.isCalling = true → r.settled = none

theorem tells_ended {settled : Bool} (h : r.isCalling = false) (called : Bool) :
    Tells called settled r :=
  ⟨fun _ => h, fun _ hc => by rw [h] at hc; cases hc⟩

/-- What neither ends the call nor settles the work. -/
theorem tells_kept {called settled : Bool} {e : Event α} (h : Tells called settled r)
    (hs : r.isCalling = true → (r.step e).settled = r.settled) :
    Tells called settled (r.step e) where
  isOver ho := isCalling_step (h.isOver ho) e
  isUnsettled hn hc := by
    have hc := isCalling_of_step hc
    exact (hs hc).trans (h.isUnsettled hn hc)

theorem tells_step {e : Event α} {rest : List (Event α)} {called settled : Bool}
    (hp : isPossible called settled (e :: rest) = true) (h : Tells called settled r) :
    ∃ called' settled', isPossible called' settled' rest = true ∧
      Tells called' settled' (r.step e) := by
  cases e with
  | listens x => exact ⟨called, settled, hp, tells_kept h fun _ => settled_listen _ r⟩
  | settles x =>
    exact ⟨called, true, hp, fun ho => isCalling_step (h.isOver ho) _, nofun⟩
  | returned => exact ⟨true, settled, hp, tells_ended (isCalling_join r) true⟩
  | threw x =>
    simp only [isPossible, Bool.and_eq_true] at hp
    exact ⟨true, settled, hp.2, tells_ended (isCalling_throw x r) true⟩
  | cancelled =>
    simp only [isPossible, Bool.and_eq_true] at hp
    exact ⟨called, settled, hp.2, tells_ended (isCalling_step (h.isOver hp.1) _) called⟩
  | passes milliseconds =>
    exact ⟨called, settled, hp, tells_kept h fun hc => settled_pass hc milliseconds⟩
  | next => exact ⟨called, settled, hp, tells_kept h fun _ => settled_deliver r⟩

/-- A call that fails has not promised an outcome before. -/
theorem settled_of_possible {before after : List (Event α)} {x : α} {called settled : Bool}
    (hp : isPossible called settled (before ++ .threw x :: after) = true)
    (h : Tells called settled r) (hc : (r.run before).isCalling = true) :
    (r.run before).settled = none := by
  induction before generalizing r called settled with
  | nil =>
    simp only [List.nil_append, isPossible, Bool.and_eq_true, Bool.not_eq_true'] at hp
    exact h.isUnsettled hp.1.2 hc
  | cons e rest ih =>
    obtain ⟨called', settled', hp', h'⟩ := tells_step hp h
    exact ih hp' h' hc

theorem sim_possible {events : List (Event α)} {called settled : Bool} (h : Sim caller r d)
    (hp : isPossible called settled events = true) (ht : Tells called settled r) :
    Sim caller (r.run events) (d.run (r.trace events)) :=
  sim_run h events fun _ _ _ he hc => settled_of_possible (he ▸ hp) ht hc

/-! ### A verdict that has fallen is handed over -/

theorem result_released {v : Verdict α} (h : Stands caller r d.phase) :
    r.result = some v ↔ d.phase = .released v := by
  obtain ⟨limit, clock, aborted, phase⟩ := d
  cases h with
  | calling _ ho | running _ ho => simp [ho.result]
  | stopped _ _ _ hr | ahead _ _ _ hr | arrived _ _ _ _ hr | resuming _ _ _ hr => simp [hr]
  | released _ _ _ _ hr => simp [hr]

/-- Once the call of the work is over, any events may follow. -/
theorem sim_later (h : Sim caller r d) (hc : r.isCalling = false) (later : List (Event α)) :
    Sim caller (r.run later) (d.run (r.trace later)) :=
  sim_run h later fun before _ _ _ hc' => by
    rw [isCalling_run hc before] at hc'
    cases hc'

/-- **A race that has told its result lets go**: nothing that comes later changes the result or
reaches the work. -/
theorem run_result {v : Verdict α} (h : Sim caller r d) (hr : r.result = some v)
    (later : List (Event α)) :
    (r.run later).result = some v ∧ (r.run later).fired = r.fired := by
  have hp := (result_released h.stands).1 hr
  have hsim := sim_later h (by simp [isCalling, hr]) later
  obtain ⟨hphase, haborted⟩ := Deadline.run_released hp (r.trace later)
  have hface := h.face
  have hface' := hsim.face
  simp only [face, Prod.mk.injEq] at hface hface'
  refine ⟨(result_released hsim.stands).2 hphase, ?_⟩
  rw [hface'.2.2.1, haborted, hface.2.2.1]

/-- The jobs that a verdict has to wait for at most. -/
def ahead (r : Race α) : Nat := r.jobs.length + if r.winner.isSome then 0 else 1

theorem ahead_decided {v : Verdict α} (h : Stands caller r (.decided v))
    (hc : r.isCalling = false) : r.deliver.ahead < r.ahead := by
  cases h with
  | ahead hj _ _ hr => simp [isCalling, hj, hr] at hc
  | arrived hj hq hn hw hr =>
    obtain ⟨rest, hq⟩ := List.head?_eq_some_iff.1 hq
    rw [deliver_first hq hw]
    simp [ahead, hq, hw]
  | resuming hj hn hw hr =>
    cases hq : r.jobs with
    | nil => rw [hq] at hn; cases hn
    | cons job rest =>
      cases job with
      | arrival w => rw [deliver_later hq hw]; simp [ahead, hq, hw]
      | resumption => rw [deliver_resumption hq hw]; simp [ahead, hq, hw, release]

theorem result_run_next {v : Verdict α} (n : Nat) (h : Sim caller r d)
    (hc : r.isCalling = false) (hv : d.verdict? = some v) (hn : r.ahead ≤ n) :
    (r.run (.replicate n .next)).result = some v := by
  induction n generalizing r d with
  | zero =>
    obtain hp | hp := Deadline.phase_of_verdict hv
    · have hlt := ahead_decided (hp ▸ h.stands) hc
      omega
    · exact (result_released h.stands).2 hp
  | succ n ih =>
    obtain hp | hp := Deadline.phase_of_verdict hv
    · have hlt := ahead_decided (hp ▸ h.stands) hc
      have hn : r.deliver.ahead ≤ n := by omega
      exact ih (sim_deliver h) (isCalling_deliver hc) (Deadline.run_verdict hv _) hn
    · exact (run_result h ((result_released h.stands).2 hp) _).1

/-- **Every verdict is handed over**: the jobs that wait, and one more, tell it. -/
theorem result_drain {v : Verdict α} (h : Sim caller r d) (hc : r.isCalling = false)
    (hv : d.verdict? = some v) : r.drain.result = some v :=
  result_run_next _ h hc hv (by unfold ahead; split <;> omega)

/-- The call of the work has come to an end. -/
def isOver (events : List (Event α)) : Bool :=
  events.any fun
    | .returned | .threw _ => true
    | .listens _ | .settles _ | .cancelled | .passes _ | .next => false

theorem isCalling_over {events : List (Event α)} (h : isOver events = true) (r : Race α) :
    (r.run events).isCalling = false := by
  induction events generalizing r with
  | nil => cases h
  | cons e rest ih =>
    cases e with
    | returned => exact isCalling_run (isCalling_join r) rest
    | threw x => exact isCalling_run (isCalling_throw x r) rest
    | listens _ | settles _ | cancelled | passes _ | next => exact ih h _

/-! ### The race from its start -/

/-- The work of a race at its start. -/
def work (limit : Number) : Caller → Deadline α
  | .gone => ⟨limit, 0, false, .released (.interrupted .cancellation)⟩
  | .absent | .live => ⟨limit, 0, false, undecided false⟩

theorem sim_begin (limit : Number) (caller : Caller) :
    Sim caller (begin limit caller : Race α) (work limit caller) := by
  cases caller with
  | gone => exact ⟨rfl, .released (.inr ⟨rfl, rfl⟩) rfl rfl rfl rfl⟩
  | absent | live =>
    exact ⟨rfl, .calling rfl ⟨rfl, rfl, rfl, rfl, rfl, rfl, rfl, rfl, rfl, [], rfl⟩⟩

theorem tells_begin (limit : Number) (caller : Caller) :
    Tells false false (begin limit caller : Race α) := by
  refine ⟨nofun, fun _ _ => ?_⟩
  cases caller <;> rfl

section Start

variable {limit : Number} {events : List (Event α)} {v : Verdict α}

theorem sim_events (limit : Number) (caller : Caller)
    (hp : isPossible false false events = true) :
    Sim caller ((begin limit caller).run events)
      ((work limit caller).run ((begin limit caller).trace events)) :=
  sim_possible (sim_begin limit caller) hp (tells_begin limit caller)

/-- A caller that gave up before is told so, and the work is never called. -/
theorem result_gone (hp : isPossible false false events = true) :
    ((begin limit .gone).run events).result = some (.interrupted .cancellation) ∧
      ((begin limit .gone).run events).started = false := by
  have hsim := sim_events limit .gone hp
  have hphase := Deadline.run_released (d := work limit .gone) rfl
    ((begin limit .gone).trace events)
  refine ⟨(result_released hsim.stands).2 hphase.1, ?_⟩
  have hface := hsim.face
  simp only [face, Prod.mk.injEq] at hface
  exact hface.2.2.2

theorem verdict_events (hcaller : caller ≠ .gone) (hp : isPossible false false events = true) :
    ((work limit caller).run ((begin limit caller).trace events)).verdict? =
      decision limit caller false 0 events := by
  have hwork : work limit caller = (⟨limit, 0, false, undecided false⟩ : Deadline α) := by
    cases caller with
    | gone => exact absurd rfl hcaller
    | absent | live => rfl
  have hsim := sim_begin (α := α) limit caller
  rw [hwork] at hsim ⊢
  exact verdict_run hsim rfl hp

/-- Work that was called is told to stop before its caller is told of an interruption. -/
theorem fired_of_interrupted {cause : Interruption} (hp : isPossible false false events = true)
    (hs : ((begin limit caller).run events).started = true)
    (hr : ((begin limit caller).run events).result = some (.interrupted cause)) :
    ((begin limit caller).run events).fired = true := by
  have hsim := sim_events limit caller hp
  have hface := hsim.face
  simp only [face, Prod.mk.injEq] at hface
  have htold : (work limit caller : Deadline α).IsTold := by
    cases caller with
    | gone => rw [hface.2.2.2] at hs; cases hs
    | absent | live => intro h; cases h
  rw [hface.2.2.1]
  refine Deadline.isTold_run htold _ ?_
  rw [Deadline.interruption?, (result_released hsim.stands).1 hr]
  rfl

theorem released_of_result (h : Sim caller r d) (hr : r.result = some v) :
    r.timed = false ∧ r.hears = false := by
  have hs := h.stands
  rw [(result_released hs).1 hr] at hs
  cases hs with
  | released _ _ ht hh => exact ⟨ht, hh⟩

end Start

/-- **A race is settled by its first event and then lets go.**  A caller that gave up before is told
so, and the work is never called.  Otherwise the result can only be the verdict of the first event
that decides, and once the call of the work is over it is told as soon as the waiting jobs have
run.  Work that was called is told to stop before its caller is told of an interruption.  Once there
is a result, nothing that comes later changes it or reaches the work. -/
theorem first_event_settles (limit : Number) (caller : Caller) (events : List (Event α))
    (hp : isPossible false false events = true) :
    let r := (begin limit caller).run events
    (caller = .gone → r.result = some (.interrupted .cancellation) ∧ r.started = false) ∧
    (caller ≠ .gone → r.started = true ∧
      (∀ v, r.result = some v → decision limit caller false 0 events = some v) ∧
      ∀ v, decision limit caller false 0 events = some v → isOver events = true →
        r.drain.result = some v) ∧
    (∀ cause, r.started = true → r.result = some (.interrupted cause) → r.fired = true) ∧
    ∀ v, r.result = some v → r.timed = false ∧ r.hears = false ∧
      ∀ later, (r.run later).result = some v ∧ (r.run later).fired = r.fired := by
  intro r
  have hsim := sim_events limit caller hp
  refine ⟨?_, fun hcaller => ⟨?_, fun v hr => ?_, fun v hv ho => ?_⟩, fun cause hs hr => ?_,
    fun v hr => ?_⟩
  · rintro rfl
    exact result_gone hp
  · have hface := hsim.face
    simp only [face, Prod.mk.injEq] at hface
    exact hface.2.2.2.trans (by simpa using hcaller)
  · rw [← verdict_events hcaller hp, Deadline.verdict?, (result_released hsim.stands).1 hr]
  · rw [← verdict_events hcaller hp] at hv
    exact result_drain hsim (isCalling_over ho _) hv
  · exact fired_of_interrupted hp hs hr
  · obtain ⟨ht, hh⟩ := released_of_result hsim hr
    exact ⟨ht, hh, run_result hsim hr⟩

/-- Work that answers its caller's giving up with an outcome of its own: the answer comes too
late, and so does the timer. -/
theorem first_event_settles_cancelled :
    let events : List (Event Nat) :=
      [.passes 3, .listens 7, .returned, .passes 10, .cancelled, .passes 50, .next, .next, .next]
    let r := (begin (.integer 20) .live).run events
    isPossible false false events = true ∧
      decision (.integer 20) .live false 0 events = some (.interrupted .cancellation) ∧
      r.settled = some 7 ∧ r.result = some (.interrupted .cancellation) ∧ r.fired = true ∧
      ∀ later, (r.run later).result = some (.interrupted .cancellation) := by
  intro events r
  have hp : isPossible false false events = true := by decide
  obtain ⟨-, -, hfired, hgo⟩ := first_event_settles (.integer 20) .live events hp
  have hr : r.result = some (.interrupted .cancellation) := by decide
  exact ⟨hp, by decide, by decide, hr, hfired _ (by decide) hr,
    fun later => ((hgo _ hr).2.2 later).1⟩

end Race

end Depository
