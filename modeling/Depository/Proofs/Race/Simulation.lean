import Depository.Race

/-!
# A race is work under a deadline

Every event of a `Race` is a few events of a `Deadline`: the listeners, the queue of jobs and the
order in which both are served make no difference that the phases do not tell.  The one thing that
carries this is that the side against the work is the first to listen, so that an interruption is
on its way before the work can answer it.

* `Race.Stands`, `Race.Sim` — a race seen as work under a deadline;
* `Race.sim_fire` — what listeners do when they are told;
* `Race.sim_step`, `Race.sim_run` — each step, and so each run, is one of the work.
-/

namespace Depository

namespace Deadline

variable {α : Type}

theorem run_append (d : Deadline α) (xs ys : List (Event α)) :
    d.run (xs ++ ys) = (d.run xs).run ys := List.foldl_append

/-! ### Work that has started -/

theorem suspend_started {d : Deadline α} (h : d.hasStarted = true) : d.suspend = d := by
  obtain ⟨limit, clock, aborted, phase⟩ := d
  cases phase with
  | starting pending => cases h
  | running | decided _ | released _ => rfl

theorem throw_started {d : Deadline α} (h : d.hasStarted = true) (x : α) : d.throw x = d := by
  obtain ⟨limit, clock, aborted, phase⟩ := d
  cases phase with
  | starting pending => cases h
  | running | decided _ | released _ => rfl

/-! ### Time passes -/

theorem pass_due {d : Deadline α} {milliseconds : Nat} (hp : d.phase = .running)
    (hdue : due d.limit ≤ d.clock + milliseconds) :
    d.pass milliseconds = { d with clock := d.clock + milliseconds }.interrupt .timeout := by
  simp [pass, hp, hdue]

theorem pass_early {d : Deadline α} {milliseconds : Nat}
    (hearly : d.phase = .running → ¬ due d.limit ≤ d.clock + milliseconds) :
    d.pass milliseconds = { d with clock := d.clock + milliseconds } := by
  obtain ⟨limit, clock, aborted, phase⟩ := d
  cases phase with
  | running => simp [pass, hearly rfl]
  | starting _ | decided _ | released _ => rfl

end Deadline

namespace Race

variable {α : Type} {caller : Caller} {r : Race α} {d : Deadline α}

/-! ### A race seen as work under a deadline -/

/-- The job hands the verdict over. -/
def Job.isResumption : Job α → Bool
  | .arrival _ => false
  | .resumption => true

@[simp] theorem isResumption_arrival (v : Verdict α) : (Job.arrival v).isResumption = false := rfl

@[simp] theorem isResumption_resumption : (Job.resumption : Job α).isResumption = true := rfl

/-- Neither side has come to an end, and the race is the first to listen. -/
structure Open (caller : Caller) (r : Race α) : Prop where
  jobs : r.jobs = []
  winner : r.winner = none
  result : r.result = none
  settled : r.settled = none
  interrupted : r.interrupted = none
  fired : r.fired = false
  cause : r.cause = .cancellation
  timed : r.timed = true
  hears : r.hears = (caller == .live)
  listeners : ∃ outcomes : List α, r.listeners = .race :: outcomes.map .work

/-- Where a race stands when its work is in a phase. -/
inductive Stands (caller : Caller) (r : Race α) : Deadline.Phase α → Prop where
  | calling (joined : r.joined = false) (isOpen : Open caller r) : Stands caller r (.starting none)
  /-- The work was told to stop while it was being called. -/
  | stopped {cause : Interruption} (joined : r.joined = false) (jobs : r.jobs = [])
      (winner : r.winner = none) (result : r.result = none) (settled : r.settled = none)
      (interrupted : r.interrupted = some cause) (fired : r.fired = true) :
      Stands caller r (.starting (some cause))
  | running (joined : r.joined = true) (isOpen : Open caller r) : Stands caller r .running
  /-- The work has settled while it was being called. -/
  | ahead {x : α} (joined : r.joined = false) (jobs : r.jobs = []) (winner : r.winner = none)
      (result : r.result = none) (settled : r.settled = some x) :
      Stands caller r (.decided (.own x))
  /-- The verdict is the next to win. -/
  | arrived {v : Verdict α} (joined : r.joined = true) (jobs : r.jobs.head? = some (.arrival v))
      (resumptions : r.jobs.countP Job.isResumption = 0)
      (winner : r.winner = none) (result : r.result = none) : Stands caller r (.decided v)
  /-- The verdict has won, and one job is to hand it over. -/
  | resuming {v : Verdict α} (joined : r.joined = true)
      (resumptions : r.jobs.countP Job.isResumption = 1)
      (winner : r.winner = some v) (result : r.result = none) : Stands caller r (.decided v)
  | released {v : Verdict α} (won : r.winner.isSome = true ∨ r.joined = false ∧ r.jobs = [])
      (resumptions : r.jobs.countP Job.isResumption = 0)
      (timed : r.timed = false) (hears : r.hears = false) (result : r.result = some v) :
      Stands caller r (.released v)

/-- What can be seen of a race besides where it stands. -/
def face (r : Race α) : Number × Nat × Bool × Bool := (r.limit, r.clock, r.fired, r.started)

/-- A race seen as work under a deadline. -/
structure Sim (caller : Caller) (r : Race α) (d : Deadline α) : Prop where
  face : r.face = (d.limit, d.clock, d.aborted, caller != .gone)
  stands : Stands caller r d.phase

/-- A verdict has fallen. -/
def isDecided : Deadline.Phase α → Bool
  | .starting _ | .running => false
  | .decided _ | .released _ => true

/-! ### A side comes to its end -/

theorem arrive_calling (h : r.joined = false) (v : Verdict α) : r.arrive v = r := by
  simp [arrive, h]

theorem arrive_joined (h : r.joined = true) (v : Verdict α) :
    r.arrive v = { r with jobs := r.jobs ++ [.arrival v] } := by
  simp [arrive, h]

theorem settle_first (h : r.settled = none) (x : α) :
    r.settle x = { r with settled := some x }.arrive (.own x) := by
  simp [settle, h]

theorem settle_again {y : α} (h : r.settled = some y) (x : α) : r.settle x = r := by
  simp [settle, h]

theorem reject_first (h : r.interrupted = none) :
    r.reject = { r with interrupted := some r.cause }.arrive (.interrupted r.cause) := by
  simp [reject, h]

theorem reject_again {c : Interruption} (h : r.interrupted = some c) : r.reject = r := by
  simp [reject, h]

/-- Who comes second changes nothing. -/
theorem stands_arrive {phase : Deadline.Phase α} (h : Stands caller r phase)
    (hd : isDecided phase = true) (v : Verdict α) : Stands caller (r.arrive v) phase := by
  cases h with
  | calling | stopped | running => cases hd
  | ahead hj hq hw hr hs => rw [arrive_calling hj]; exact .ahead hj hq hw hr hs
  | arrived hj hq hn hw hr =>
    rw [arrive_joined hj]
    exact .arrived hj (by simp [hq]) (by simp [hn]) hw hr
  | resuming hj hn hw hr =>
    rw [arrive_joined hj]
    exact .resuming hj (by simp [hn]) hw hr
  | released hv hn ht hh hr =>
    cases hj : r.joined with
    | false => rw [arrive_calling hj]; exact .released hv hn ht hh hr
    | true =>
      have hv : r.winner.isSome = true := hv.resolve_right (by simp [hj])
      rw [arrive_joined hj]
      exact .released (.inl hv) (by simp [hn]) ht hh hr

/-- Once a verdict has fallen, how the two sides fare makes no difference. -/
theorem stands_fared {phase : Deadline.Phase α} (h : Stands caller r phase)
    (hd : isDecided phase = true) {settled : Option α}
    (hs : ∀ x, r.settled = some x → settled = some x) (interrupted : Option Interruption) :
    Stands caller { r with settled, interrupted } phase := by
  cases h with
  | calling | stopped | running => cases hd
  | ahead hj hq hw hr hx => exact .ahead hj hq hw hr (hs _ hx)
  | arrived hj hq hn hw hr => exact .arrived hj hq hn hw hr
  | resuming hj hn hw hr => exact .resuming hj hn hw hr
  | released hv hn ht hh hr => exact .released hv hn ht hh hr

theorem stands_settle_decided {phase : Deadline.Phase α} (h : Stands caller r phase)
    (hd : isDecided phase = true) (x : α) : Stands caller (r.settle x) phase := by
  cases hs : r.settled with
  | some y => rw [settle_again hs]; exact h
  | none =>
    rw [settle_first hs]
    exact stands_arrive (stands_fared h hd (by simp [hs]) r.interrupted) hd _

theorem stands_reject_decided {phase : Deadline.Phase α} (h : Stands caller r phase)
    (hd : isDecided phase = true) : Stands caller r.reject phase := by
  cases hi : r.interrupted with
  | some c => rw [reject_again hi]; exact h
  | none =>
    rw [reject_first hi]
    exact stands_arrive (stands_fared h hd (fun _ hx => hx) (some r.cause)) hd _

theorem stands_settle (h : Stands caller r d.phase) (x : α) :
    Stands caller (r.settle x) (d.settle x).phase := by
  obtain ⟨limit, clock, aborted, phase⟩ := d
  cases phase with
  | starting pending =>
    cases h with
    | calling hj ho =>
      rw [settle_first ho.settled, arrive_calling (by exact hj)]
      exact .ahead hj ho.jobs ho.winner ho.result rfl
    | stopped hj hq hw hr hs =>
      rw [settle_first hs, arrive_calling (by exact hj)]
      exact .ahead hj hq hw hr rfl
  | running =>
    cases h with
    | running hj ho =>
      rw [settle_first ho.settled, arrive_joined (by exact hj)]
      exact .arrived hj (by simp [ho.jobs]) (by simp [ho.jobs]) ho.winner ho.result
  | decided v => exact stands_settle_decided h rfl x
  | released v => exact stands_settle_decided h rfl x

theorem face_arrive (v : Verdict α) (r : Race α) : (r.arrive v).face = r.face := by
  unfold arrive; split <;> rfl

theorem face_settle (x : α) (r : Race α) : (r.settle x).face = r.face := by
  unfold settle
  split
  · exact face_arrive _ _
  · rfl

theorem face_reject (r : Race α) : r.reject.face = r.face := by
  unfold reject
  split
  · exact face_arrive _ _
  · rfl

theorem sim_settle (h : Sim caller r d) (x : α) : Sim caller (r.settle x) (d.settle x) := by
  refine ⟨?_, stands_settle h.stands x⟩
  rw [face_settle, h.face]
  unfold Deadline.settle
  split <;> rfl

/-! ### The listeners are told -/

/-- The side against the work has come to its end, or the verdict has fallen. -/
def isPast : Deadline.Phase α → Bool
  | .starting none | .running => false
  | .starting (some _) | .decided _ | .released _ => true

/-- What listeners do, seen as work. -/
def replies (listeners : List (Listener α)) : List (Deadline.Event α) :=
  listeners.filterMap fun
    | .race => none
    | .work x => some (.settled x)

theorem isPast_settle (h : isPast d.phase = true) (x : α) : isPast (d.settle x).phase = true := by
  obtain ⟨limit, clock, aborted, phase⟩ := d
  cases phase with
  | running => cases h
  | _ => rfl

theorem sim_reject (h : Sim caller r d) (hp : isPast d.phase = true) : Sim caller r.reject d := by
  refine ⟨by rw [face_reject, h.face], ?_⟩
  obtain ⟨limit, clock, aborted, phase⟩ := d
  have hs := h.stands
  cases phase with
  | running => cases hp
  | starting pending =>
    cases hs with
    | calling => cases hp
    | stopped hj hq hw hr hs hi hf => rw [reject_again hi]; exact .stopped hj hq hw hr hs hi hf
  | decided v => exact stands_reject_decided hs rfl
  | released v => exact stands_reject_decided hs rfl

/-- What the listeners do once the side against the work has been told. -/
theorem sim_hear (listeners : List (Listener α)) (h : Sim caller r d)
    (hp : isPast d.phase = true) :
    Sim caller (listeners.foldl hear r) (d.run (replies listeners)) := by
  induction listeners generalizing r d with
  | nil => exact h
  | cons l rest ih =>
    cases l with
    | race => exact ih (sim_reject h hp) hp
    | work x => exact ih (sim_settle h x) (isPast_settle hp x)

/-- What a firing makes the listeners do, seen as work. -/
def answers (r : Race α) : List (Deadline.Event α) := if r.fired then [] else replies r.listeners

/-- The race with its timer, its ear for the caller and its cause as they are when it fires. -/
def turn (timed hears : Bool) (cause : Interruption) (r : Race α) : Race α :=
  { r with timed, hears, cause }

/-- The race while its listeners are told. -/
def telling (timed hears : Bool) (cause : Interruption) (r : Race α) : Race α :=
  { r with timed, hears, cause, fired := true, listeners := [] }

section Fire

variable (timed hears : Bool) (cause : Interruption) {told : Interruption}

theorem fire_first (hf : r.fired = false) :
    (r.turn timed hears cause).fire = r.listeners.foldl hear (r.telling timed hears cause) := by
  simp [fire, turn, hf, telling]

theorem fire_again (hf : r.fired = true) :
    (r.turn timed hears cause).fire = r.turn timed hears cause := by
  simp [fire, turn, hf]

theorem face_telling (h : r.face = (d.limit, d.clock, d.aborted, caller != .gone)) :
    (r.telling timed hears cause).face = (d.limit, d.clock, true, caller != .gone) := by
  simp only [face, Prod.mk.injEq] at h
  obtain ⟨hlimit, hclock, -, hstarted⟩ := h
  simp [face, telling, hlimit, hclock, hstarted]

/-- The side against the work is the first to be told, so that an interruption decides before the
work can answer it. -/
theorem foldl_hear_open (ho : Open caller r) :
    ∃ outcomes : List α, r.answers = replies (outcomes.map .work) ∧
      r.listeners.foldl hear (r.telling timed hears cause) =
        (outcomes.map .work).foldl hear (r.telling timed hears cause).reject := by
  obtain ⟨outcomes, hl⟩ := ho.listeners
  exact ⟨outcomes, by simp [answers, ho.fired, hl, replies], by rw [hl]; rfl⟩

theorem sim_fire_first (h : Sim caller r d) (hf : r.fired = false) (hr : r.result = none)
    (hc : isPast d.phase = false → cause = told) :
    Sim caller (r.turn timed hears cause).fire ((d.interrupt told).run r.answers) := by
  obtain ⟨limit, clock, aborted, phase⟩ := d
  obtain ⟨hface, hs⟩ := h
  have htelling := face_telling timed hears cause hface
  have ha : r.answers = replies r.listeners := by simp [answers, hf]
  rw [fire_first timed hears cause hf]
  cases hs with
  | calling hj ho =>
    obtain rfl := hc rfl
    obtain ⟨outcomes, ha, hl⟩ := foldl_hear_open timed hears cause ho
    rw [ha, hl]
    refine sim_hear _ ⟨(face_reject _).trans htelling, ?_⟩ rfl
    rw [reject_first (by exact ho.interrupted), arrive_calling (by exact hj)]
    exact .stopped hj ho.jobs ho.winner ho.result ho.settled rfl rfl
  | running hj ho =>
    obtain rfl := hc rfl
    obtain ⟨outcomes, ha, hl⟩ := foldl_hear_open timed hears cause ho
    rw [ha, hl]
    refine sim_hear _ ⟨(face_reject _).trans htelling, ?_⟩ rfl
    rw [reject_first (by exact ho.interrupted), arrive_joined (by exact hj)]
    exact .arrived hj (by simp [telling, ho.jobs]) (by simp [telling, ho.jobs])
      ho.winner ho.result
  | stopped _ _ _ _ _ _ hf' => rw [hf] at hf'; cases hf'
  | ahead hj hq hw hr hs => rw [ha]; exact sim_hear _ ⟨htelling, .ahead hj hq hw hr hs⟩ rfl
  | arrived hj hq hn hw hr => rw [ha]; exact sim_hear _ ⟨htelling, .arrived hj hq hn hw hr⟩ rfl
  | resuming hj hn hw hr => rw [ha]; exact sim_hear _ ⟨htelling, .resuming hj hn hw hr⟩ rfl
  | released _ _ _ _ hr' => rw [hr] at hr'; cases hr'

theorem sim_fire_again (h : Sim caller r d) (hf : r.fired = true) (hr : r.result = none) :
    Sim caller (r.turn timed hears cause).fire ((d.interrupt told).run r.answers) := by
  obtain ⟨limit, clock, aborted, phase⟩ := d
  obtain ⟨hface, hs⟩ := h
  have ha : r.answers = [] := by simp [answers, hf]
  have haborted : aborted = true := by
    simp only [face, Prod.mk.injEq, hf] at hface
    exact hface.2.2.1.symm
  subst haborted
  rw [fire_again timed hears cause hf, ha]
  cases hs with
  | calling _ ho | running _ ho => have := ho.fired; rw [hf] at this; cases this
  | stopped hj hq hw hr hs hi hf => exact ⟨hface, .stopped hj hq hw hr hs hi hf⟩
  | ahead hj hq hw hr hs => exact ⟨hface, .ahead hj hq hw hr hs⟩
  | arrived hj hq hn hw hr => exact ⟨hface, .arrived hj hq hn hw hr⟩
  | resuming hj hn hw hr => exact ⟨hface, .resuming hj hn hw hr⟩
  | released _ _ _ _ hr' => rw [hr] at hr'; cases hr'

/-- **A firing interrupts the work**, which answers it afterwards. -/
theorem sim_fire (h : Sim caller r d) (hr : r.result = none)
    (hc : isPast d.phase = false → cause = told) :
    Sim caller (r.turn timed hears cause).fire ((d.interrupt told).run r.answers) := by
  cases hf : r.fired with
  | false => exact sim_fire_first timed hears cause h hf hr hc
  | true => exact sim_fire_again timed hears cause h hf hr

end Fire

/-! ### Each event is a few events of the work -/

theorem hears_result {phase : Deadline.Phase α} (h : Stands caller r phase)
    (hh : r.hears = true) : r.result = none := by
  cases h with
  | calling _ ho | running _ ho => exact ho.result
  | stopped _ _ _ hr | ahead _ _ _ hr | arrived _ _ _ _ hr | resuming _ _ _ hr => exact hr
  | released _ _ _ hh' => rw [hh] at hh'; cases hh'

theorem cause_open {phase : Deadline.Phase α} (h : Stands caller r phase)
    (hp : isPast phase = false) : r.cause = .cancellation := by
  cases h with
  | calling _ ho | running _ ho => exact ho.cause
  | _ => cases hp

theorem sim_cancel (h : Sim caller r d) :
    Sim caller r.cancel (d.run (if r.hears then .cancelled :: r.answers else [])) := by
  cases hh : r.hears with
  | false =>
    have hcancel : r.cancel = r := by simp [cancel, hh]
    rw [hcancel]
    exact h
  | true =>
    have hcancel : r.cancel = (r.turn r.timed false r.cause).fire := by
      simp [cancel, hh, turn]
    rw [hcancel, if_pos rfl]
    exact sim_fire _ _ _ h (hears_result h.stands hh) (cause_open h.stands)

/-- The timer rings only while nothing has come to an end. -/
theorem rings_running {phase : Deadline.Phase α} (h : Stands caller r phase)
    (hr : r.rings = true) :
    phase = .running ∧ r.result = none ∧ Deadline.due r.limit ≤ r.clock := by
  simp only [rings, Bool.and_eq_true, List.isEmpty_iff, decide_eq_true_eq] at hr
  obtain ⟨⟨⟨ht, hj⟩, hq⟩, hdue⟩ := hr
  cases h with
  | running _ ho => exact ⟨rfl, ho.result, hdue⟩
  | calling hj' | stopped hj' | ahead hj' => rw [hj] at hj'; cases hj'
  | arrived _ hq' => rw [hq] at hq'; cases hq'
  | resuming _ hn => rw [hq] at hn; cases hn
  | released _ _ ht' => rw [ht] at ht'; cases ht'

theorem rings_wait (ho : Open caller r) (milliseconds : Nat) :
    (r.wait milliseconds).rings =
      (r.joined && decide (Deadline.due r.limit ≤ r.clock + milliseconds)) := by
  simp [rings, wait, ho.timed, ho.jobs]

theorem open_wait (ho : Open caller r) (milliseconds : Nat) : Open caller (r.wait milliseconds) :=
  { ho with }

theorem stands_wait {phase : Deadline.Phase α} (h : Stands caller r phase) (milliseconds : Nat) :
    Stands caller (r.wait milliseconds) phase := by
  cases h with
  | calling hj ho => exact .calling hj (open_wait ho milliseconds)
  | stopped hj hq hw hr hs hi hf => exact .stopped hj hq hw hr hs hi hf
  | running hj ho => exact .running hj (open_wait ho milliseconds)
  | ahead hj hq hw hr hs => exact .ahead hj hq hw hr hs
  | arrived hj hq hn hw hr => exact .arrived hj hq hn hw hr
  | resuming hj hn hw hr => exact .resuming hj hn hw hr
  | released hv hn ht hh hr => exact .released hv hn ht hh hr

theorem sim_pass (h : Sim caller r d) (milliseconds : Nat) :
    Sim caller (r.pass milliseconds) (d.run (.passed milliseconds ::
      if (r.wait milliseconds).rings then r.answers else [])) := by
  obtain ⟨limit, clock, aborted, phase⟩ := d
  have hface := h.face
  simp only [face, Prod.mk.injEq] at hface
  obtain ⟨hlimit, hclock, hrest⟩ := hface
  have hw : Sim caller (r.wait milliseconds) ⟨limit, clock + milliseconds, aborted, phase⟩ := by
    refine ⟨?_, stands_wait h.stands milliseconds⟩
    simp only [face, wait, hlimit, hclock, hrest]
  unfold pass
  rw [Deadline.run, List.foldl_cons, Deadline.step]
  cases hr : (r.wait milliseconds).rings with
  | true =>
    obtain ⟨rfl, hresult, hdue⟩ := rings_running hw.stands hr
    have hring : (r.wait milliseconds).ring =
        ((r.wait milliseconds).turn false (r.wait milliseconds).hears .timeout).fire := rfl
    rw [if_pos rfl, if_pos rfl, hring,
      Deadline.pass_due rfl (by simpa only [wait, hlimit, hclock] using hdue)]
    exact sim_fire false _ _ hw hresult fun _ => rfl
  | false =>
    have hearly : phase = .running → ¬ Deadline.due limit ≤ clock + milliseconds := by
      rintro rfl
      cases h.stands with
      | running hj ho =>
        rw [rings_wait ho, hlimit, hclock, hj] at hr
        simpa using hr
    rw [if_neg (by simp), if_neg (by simp), Deadline.pass_early hearly]
    exact hw

theorem sim_listen (h : Sim caller r d) (x : α) : Sim caller (r.listen (.work x)) d := by
  obtain ⟨hface, hs⟩ := h
  unfold listen
  split
  · exact ⟨hface, hs⟩
  · refine ⟨hface, ?_⟩
    have hopen : Open caller r →
        Open caller { r with listeners := r.listeners ++ [.work x] } := by
      intro ho
      obtain ⟨outcomes, hl⟩ := ho.listeners
      exact { ho with listeners := ⟨outcomes ++ [x], by simp [hl]⟩ }
    generalize d.phase = phase at hs
    cases hs with
    | calling hj ho => exact .calling hj (hopen ho)
    | stopped hj hq hw hr hs hi hf => exact .stopped hj hq hw hr hs hi hf
    | running hj ho => exact .running hj (hopen ho)
    | ahead hj hq hw hr hs => exact .ahead hj hq hw hr hs
    | arrived hj hq hn hw hr => exact .arrived hj hq hn hw hr
    | resuming hj hn hw hr => exact .resuming hj hn hw hr
    | released hv hn ht hh hr => exact .released hv hn ht hh hr

theorem hasStarted_over (h : Stands caller r d.phase) (hc : r.isCalling = false) :
    d.hasStarted = true := by
  obtain ⟨limit, clock, aborted, phase⟩ := d
  cases h with
  | calling hj ho => simp [isCalling, hj, ho.result] at hc
  | stopped hj _ _ hr => simp [isCalling, hj, hr] at hc
  | running | ahead | arrived | resuming | released => rfl

theorem join_calling (hc : r.isCalling = true) :
    r.join = { r with joined := true, jobs := r.jobs ++ r.early } := if_pos hc

theorem sim_join (h : Sim caller r d) : Sim caller r.join d.suspend := by
  cases hc : r.isCalling with
  | false =>
    have hover : r.join = r := by simp [join, hc]
    rw [hover, Deadline.suspend_started (hasStarted_over h.stands hc)]
    exact h
  | true =>
    obtain ⟨limit, clock, aborted, phase⟩ := d
    obtain ⟨hface, hs⟩ := h
    rw [join_calling hc]
    cases hs with
    | calling hj ho =>
      exact ⟨hface, .running rfl { ho with
        jobs := by simp [early, ho.jobs, ho.settled, ho.interrupted] }⟩
    | stopped hj hq hw hr hs hi hf =>
      exact ⟨hface, .arrived rfl (by simp [early, hq, hs, hi])
        (by simp [early, hq, hs, hi]) hw hr⟩
    | ahead hj hq hw hr hs =>
      refine ⟨hface, .arrived rfl (by simp [early, hq, hs]) ?_ hw hr⟩
      cases hi : r.interrupted <;> simp [early, hq, hs, hi]
    | running hj | arrived hj | resuming hj => simp [isCalling, hj] at hc
    | released _ _ _ _ hr => simp [isCalling, hr] at hc

theorem sim_throw (h : Sim caller r d) (ht : r.isCalling = true → r.settled = none) (x : α) :
    Sim caller (r.throw x) (d.throw x) := by
  cases hc : r.isCalling with
  | false =>
    have hover : r.throw x = r := by simp [throw, hc]
    rw [hover, Deadline.throw_started (hasStarted_over h.stands hc)]
    exact h
  | true =>
    obtain ⟨limit, clock, aborted, phase⟩ := d
    obtain ⟨hface, hs⟩ := h
    have hcalling : r.throw x = r.release (.own x) := if_pos hc
    rw [hcalling]
    cases hs with
    | calling hj ho =>
      exact ⟨hface, .released (.inr ⟨hj, ho.jobs⟩) (by simp [release, ho.jobs]) rfl rfl rfl⟩
    | stopped hj hq =>
      exact ⟨hface, .released (.inr ⟨hj, hq⟩) (by simp [release, hq]) rfl rfl rfl⟩
    | ahead _ _ _ _ hs => rw [ht hc] at hs; cases hs
    | running hj | arrived hj | resuming hj => simp [isCalling, hj] at hc
    | released _ _ _ _ hr => simp [isCalling, hr] at hc

/-! ### A job runs -/

section Deliver

variable {rest : List (Job α)} {v w : Verdict α}

theorem deliver_nil (hq : r.jobs = []) : r.deliver = r := by simp [deliver, hq]

theorem deliver_first (hq : r.jobs = .arrival v :: rest) (hw : r.winner = none) :
    r.deliver = { r with jobs := rest ++ [.resumption], winner := some v } := by
  simp only [deliver, hq, hw]

theorem deliver_later (hq : r.jobs = .arrival v :: rest) (hw : r.winner = some w) :
    r.deliver = { r with jobs := rest } := by
  simp only [deliver, hq, hw]

theorem deliver_resumption (hq : r.jobs = .resumption :: rest) (hw : r.winner = some w) :
    r.deliver = { r with jobs := rest }.release w := by
  simp only [deliver, hq, hw]

end Deliver

/-- The job that hands the verdict over is what delivers it. -/
def deliveries : List (Job α) → List (Deadline.Event α)
  | .resumption :: _ => [.delivered]
  | .arrival _ :: _ | [] => []

theorem sim_deliver_decided {v : Verdict α} (h : Sim caller r d) (hp : d.phase = .decided v) :
    Sim caller r.deliver (d.run (deliveries r.jobs)) := by
  obtain ⟨limit, clock, aborted, phase⟩ := d
  obtain ⟨hface, hs⟩ := h
  subst hp
  cases hs with
  | ahead hj hq hw hr hs =>
    rw [deliver_nil hq, hq]
    exact ⟨hface, .ahead hj hq hw hr hs⟩
  | arrived hj hq hn hw hr =>
    obtain ⟨rest, hq⟩ := List.head?_eq_some_iff.1 hq
    rw [hq, List.countP_cons_of_neg (by simp)] at hn
    rw [deliver_first hq hw, hq]
    exact ⟨hface, .resuming hj (by simp [hn]) rfl hr⟩
  | resuming hj hn hw hr =>
    cases hq : r.jobs with
    | nil => rw [hq] at hn; cases hn
    | cons job rest =>
      rw [hq] at hn
      cases job with
      | arrival w =>
        rw [deliver_later hq hw]
        exact ⟨hface, .resuming hj (by simpa using hn) hw hr⟩
      | resumption =>
        rw [deliver_resumption hq hw]
        have hn : rest.countP Job.isResumption = 0 := by
          rw [List.countP_cons_of_pos rfl] at hn
          omega
        exact ⟨hface, .released (.inl (by simp [release, hw])) hn rfl rfl rfl⟩

theorem sim_deliver_released {v : Verdict α} (h : Sim caller r d) (hp : d.phase = .released v) :
    Sim caller r.deliver (d.run (deliveries r.jobs)) := by
  obtain ⟨limit, clock, aborted, phase⟩ := d
  obtain ⟨hface, hs⟩ := h
  subst hp
  cases hs with
  | released hv hn ht hh hr =>
    cases hq : r.jobs with
    | nil => rw [deliver_nil hq]; exact ⟨hface, .released hv hn ht hh hr⟩
    | cons job rest =>
      rw [hq] at hn
      cases job with
      | resumption => simp at hn
      | arrival w =>
        have hv : r.winner.isSome = true := hv.resolve_right (by simp [hq])
        obtain ⟨v, hw⟩ := Option.isSome_iff_exists.1 hv
        rw [deliver_later hq hw]
        exact ⟨hface, .released (.inl hv) (by simpa using hn) ht hh hr⟩

theorem jobs_undecided {phase : Deadline.Phase α} (h : Stands caller r phase)
    (hd : isDecided phase = false) : r.jobs = [] := by
  cases h with
  | calling _ ho | running _ ho => exact ho.jobs
  | stopped _ hq => exact hq
  | ahead | arrived | resuming | released => cases hd

theorem sim_deliver (h : Sim caller r d) : Sim caller r.deliver (d.run (deliveries r.jobs)) := by
  cases hp : d.phase with
  | starting pending =>
    have hq := jobs_undecided h.stands (by rw [hp]; rfl)
    rw [deliver_nil hq, hq]
    exact h
  | running =>
    have hq := jobs_undecided h.stands (by rw [hp]; rfl)
    rw [deliver_nil hq, hq]
    exact h
  | decided v => exact sim_deliver_decided h hp
  | released v => exact sim_deliver_released h hp

/-! ### Every run is a run of the work -/

/-- What an event of a race is to the work. -/
def moves (r : Race α) : Event α → List (Deadline.Event α)
  | .listens _ => []
  | .settles x => [.settled x]
  | .returned => [.suspended]
  | .threw x => [.threw x]
  | .cancelled => if r.hears then .cancelled :: r.answers else []
  | .passes milliseconds =>
    .passed milliseconds :: if (r.wait milliseconds).rings then r.answers else []
  | .next => deliveries r.jobs

/-- **A step of the race is a few events of the work.**  A call that fails has not promised an
outcome before. -/
theorem sim_step (h : Sim caller r d) (e : Event α)
    (ht : ∀ x, e = .threw x → r.isCalling = true → r.settled = none) :
    Sim caller (r.step e) (d.run (r.moves e)) := by
  cases e with
  | listens x => exact sim_listen h x
  | settles x => exact sim_settle h x
  | returned => exact sim_join h
  | threw x => exact sim_throw h (ht x rfl) x
  | cancelled => exact sim_cancel h
  | passes milliseconds => exact sim_pass h milliseconds
  | next => exact sim_deliver h

/-- What the events of a race are to the work. -/
def trace (r : Race α) : List (Event α) → List (Deadline.Event α)
  | [] => []
  | e :: rest => r.moves e ++ (r.step e).trace rest

theorem sim_run (h : Sim caller r d) (events : List (Event α))
    (ht : ∀ before x after, events = before ++ .threw x :: after →
      (r.run before).isCalling = true → (r.run before).settled = none) :
    Sim caller (r.run events) (d.run (r.trace events)) := by
  induction events generalizing r d with
  | nil => exact h
  | cons e rest ih =>
    rw [trace, Deadline.run_append]
    refine ih (sim_step h e ?_) fun before x after hrest => ?_
    · rintro x rfl
      exact ht [] x rest rfl
    · exact ht (e :: before) x after (by rw [hrest]; rfl)

end Race

end Depository
