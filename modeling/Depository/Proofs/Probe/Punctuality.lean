import Depository.Proofs.Probe.Session
import Depository.Proofs.Race.Decision
import Depository.Proofs.Settings.DataSource

/-!
# How long a test may take

The settings give connection tests a number of milliseconds, and any positive integer is accepted.
The timer that interrupts a test takes no number above `Deadline.longest`: what is longer it takes
for one millisecond.  So a limit that the timer can wait for is kept, and every test that waits at
all is told that its time is over after one millisecond under a limit that it cannot.

* `Deadline.IsPunctual` — work is told that its time is over only when it is, kept by every event;
* `Session.deadline_after` — what events keep of a deadline is there in every order of events;
* `Settings.timeout_on_time` — **limits up to the longest one are kept, and no others**, and
  `Settings.timeout_early` — settings with a limit of over a month, of which a millisecond is
  waited.
-/

namespace Depository

open Schema

namespace Deadline

variable {α : Type} {d : Deadline α}

/-- Work is told that its time is over only when it is. -/
def IsPunctual (d : Deadline α) : Prop := d.interruption? = some .timeout → due d.limit ≤ d.clock

/-- Work that was not cut short by its time is punctual. -/
theorem isPunctual_of_ne (h : d.interruption? ≠ some .timeout) : d.IsPunctual :=
  fun htimeout => absurd htimeout h

theorem limit_step (d : Deadline α) (e : Event α) : (d.step e).limit = d.limit := by
  obtain ⟨limit, clock, aborted, phase⟩ := d
  cases e with
  | passed milliseconds =>
    cases phase with
    | running => simp only [step, pass, interrupt]; split <;> rfl
    | _ => rfl
  | suspended =>
    cases phase with
    | starting pending => cases pending <;> rfl
    | _ => rfl
  | settled | threw | cancelled | delivered => cases phase <;> rfl

/-- **Every event keeps work punctual**: only the passing of time says that the time is over. -/
theorem IsPunctual.step (h : d.IsPunctual) (e : Event α) : (d.step e).IsPunctual := by
  obtain ⟨limit, clock, aborted, phase⟩ := d
  cases e with
  | passed milliseconds =>
    have hlater (hdue : due limit ≤ clock) : due limit ≤ clock + milliseconds := by omega
    cases phase with
    | running =>
      simp only [Deadline.step, pass, interrupt]
      split
      case isTrue hdue => exact fun _ => hdue
      case isFalse => exact isPunctual_of_ne (by simp [interruption?])
    | _ => exact fun htimeout => hlater (h htimeout)
  | suspended =>
    cases phase with
    | starting pending =>
      cases pending with
      | none => exact isPunctual_of_ne (by simp [interruption?, Deadline.step, suspend])
      | some cause => exact h
    | _ => exact h
  | cancelled =>
    cases phase with
    | starting pending =>
      cases pending with
      | none => exact isPunctual_of_ne (by simp [interruption?, Deadline.step, interrupt])
      | some cause => exact h
    | running => exact isPunctual_of_ne (by simp [interruption?, Deadline.step, interrupt])
    | _ => exact h
  | settled outcome | threw outcome =>
    cases phase with
    | starting _ => exact isPunctual_of_ne (by simp [interruption?, Deadline.step, settle, throw])
    | _ => exact h
  | delivered =>
    cases phase with
    | decided v => cases v <;> exact h
    | _ => exact h

/-- Running work is interrupted when its time is over. -/
theorem verdict_pass_of_due {milliseconds : Nat} (hrunning : d.phase = .running)
    (hdue : due d.limit ≤ d.clock + milliseconds) :
    (d.step (.passed milliseconds)).verdict? = some (.interrupted .timeout) := by
  simp [Deadline.step, pass, interrupt, verdict?, hrunning, hdue]

/-! ### Limits of whole milliseconds -/

theorem due_of_le {n : Nat} (h : n ≤ longest) : n ≤ due (.integer n) := by
  unfold due
  split
  · exact Nat.le_refl n
  · rename_i hnot
    have hwithin : isWithin (.integer n) = true := by simpa [isWithin] using h
    have hsmall : ¬ (1 : Int) ≤ n := fun hpos => hnot ⟨hpos, hwithin⟩
    omega

theorem due_of_lt {n : Nat} (h : longest < n) : due (.integer n) = 1 := by
  have hbeyond : isWithin (.integer n) = false := by simpa [isWithin] using h
  simp [due, hbeyond]

end Deadline

namespace Session

variable {w : Circumstances} {P : Deadline (Except Trouble Unit) → Prop}

/-! ### In every order of events -/

theorem deadline_proceed (hstep : ∀ d e, P d → P (d.step e)) (p : Check Unit) (s : Session)
    (h : P s.run.deadline) : P (proceed w p s).run.deadline := by
  have hadvance (r : Run) (e : Deadline.Event (Except Trouble Unit)) (hr : P r.deadline) :
      P (r.advance w e).deadline := by
    rw [Run.deadline_advance]
    exact hstep _ e hr
  induction p generalizing s with
  | done outcome => exact hadvance s.run _ h
  | perform call next ih =>
    refine ih _ (s.performed w call) ?_
    unfold performed
    dsimp only
    split
    · exact hadvance (s.run.record call) _ h
    · exact h
  | await call next ih => exact hadvance (s.run.record call) _ h
  | arrange release next ih => exact ih { s with run := _, disarmed := _ } h
  | look next ih => exact ih _ s h
  | draw next ih => exact ih _ { s with run := _ } h

/-- What every event keeps of a deadline is there in every order of events. -/
theorem deadline_after (hstep : ∀ d e, P d → P (d.step e)) {s : Session} (h : P s.run.deadline)
    (moments : List Moment) : P (s.after w moments).run.deadline := by
  refine after_induction (P := fun s => P s.run.deadline) (fun s m hs => ?_) h moments
  have hadvance (e : Deadline.Event (Except Trouble Unit)) :
      P (s.run.advance w e).deadline := by
    rw [Run.deadline_advance]
    exact hstep _ e hs
  cases m with
  | happens x => exact hadvance _
  | delivers => exact hadvance _
  | settles reply =>
    rw [step]
    split <;> exact hs
  | resumes =>
    rw [step]
    split
    · exact deadline_proceed hstep _ s hs
    all_goals exact hs

/-- A test keeps its limit and is punctual. -/
theorem isPunctual_after (w : Circumstances) (s : Settings) (directory : String) (limit : Number)
    (b : Backend) (c : b.Config) (moments : List Moment) :
    let d := ((ofTest w s directory limit b c).after w moments).run.deadline
    d.limit = limit ∧ d.IsPunctual := by
  have hkept (d : Deadline (Except Trouble Unit)) (e : Deadline.Event (Except Trouble Unit)) :
      d.limit = limit ∧ d.IsPunctual → (d.step e).limit = limit ∧ (d.step e).IsPunctual :=
    fun ⟨hlimit, hpunctual⟩ => ⟨(d.limit_step e).trans hlimit, hpunctual.step e⟩
  exact deadline_after (P := fun d => d.limit = limit ∧ d.IsPunctual) hkept
    (deadline_proceed hkept _ (⟨fresh limit, .finished, [], none⟩ : Session)
      ⟨rfl, Deadline.isPunctual_of_ne (by simp [fresh, Run.start, Deadline.interruption?])⟩) moments

/-- Where the verdict is that the time is over, it is. -/
theorem due_le_clock {s : Settings} {directory : String} {limit : Number} {b : Backend}
    {c : b.Config} {moments : List Moment}
    (h : ((ofTest w s directory limit b c).after w moments).run.deadline.verdict? =
      some (.interrupted .timeout)) :
    Deadline.due limit ≤ ((ofTest w s directory limit b c).after w moments).run.deadline.clock := by
  obtain ⟨hlimit, hpunctual⟩ := isPunctual_after w s directory limit b c moments
  have htold : ((ofTest w s directory limit b c).after w moments).run.deadline.interruption? =
      some .timeout := by
    unfold Deadline.interruption?
    rcases Deadline.phase_of_verdict h with hphase | hphase <;> rw [hphase]
  have hdue := hpunctual htold
  rwa [hlimit] at hdue

end Session

namespace Settings

variable {env : Option Json} {s : Settings}

/-- The limit of tests is a positive integer, of any size. -/
theorem probeTimeout_pos (h : load env = .ok s) : 0 < s.probeTimeout := by
  have hcheck := check_of_load h
  rw [check] at hcheck
  split at hcheck
  · exact pos_of_positiveOr (by decide) (read_eq_valid.1 hcheck .probeTimeout)
  · cases hcheck

/-- **Limits up to the longest one are kept, and no others.**  Take any environment that is accepted
and any test under the limit that it gives, in any order of events.  The limit is a positive
integer.  If the timer can wait for it, a test whose verdict is that its time is over has run for
that long at least.  Otherwise the time of every test that is waiting is over after one millisecond.
What a test reports is the verdict of such an order of events, told with the limit as it was
given. -/
theorem timeout_on_time (h : load env = .ok s) :
    0 < s.probeTimeout ∧
    (s.probeTimeout ≤ Deadline.longest →
      ∀ (w : Circumstances) (directory : String) (b : Backend) (c : b.Config)
        (moments : List Moment),
        let x := (Session.ofTest w s directory (.integer s.probeTimeout) b c).after w moments
        x.run.deadline.verdict? = some (.interrupted .timeout) →
          s.probeTimeout ≤ x.run.deadline.clock) ∧
    (Deadline.longest < s.probeTimeout →
      ∀ (w : Circumstances) (directory : String) (b : Backend) (c : b.Config)
        (moments : List Moment),
        let x := (Session.ofTest w s directory (.integer s.probeTimeout) b c).after w moments
        x.run.deadline.phase = .running →
          (x.step w (.happens (.passes 1))).run.deadline.verdict? =
            some (.interrupted .timeout)) ∧
    ∀ (w : Circumstances) (directory : String) (owner : Cell) (v plain : Variant),
      v.reveal s.encryptionKey owner = .ok plain → ∃ moments,
        let x := (Session.ofTest w s directory (.integer s.probeTimeout) plain.backend
          plain.config).after w moments
        ∃ verdict, x.run.deadline.verdict? = some verdict ∧
          Probe.test s directory owner v false w = Probe.report plain.backend
            (Probe.finding (.integer s.probeTimeout) verdict) x.run ∧
          (verdict = .interrupted .timeout → (Probe.test s directory owner v false w).outcome =
            .error (.connection plain.backend
              ("timed out after " ++ (Number.integer s.probeTimeout).text ++ "ms"))) := by
  refine ⟨probeTimeout_pos h, fun hwithin w directory b c moments htimeout => ?kept,
    fun hbeyond w directory b c moments hrunning => ?broken,
    fun w directory owner v plain hplain => ?report⟩
  case kept =>
    exact (Deadline.due_of_le hwithin).trans (Session.due_le_clock htimeout)
  case broken =>
    obtain ⟨hlimit, -⟩ :=
      Session.isPunctual_after w s directory (.integer s.probeTimeout) b c moments
    refine (congrArg Deadline.verdict? (Run.deadline_advance ..)).trans
      (Deadline.verdict_pass_of_due hrunning ?_)
    rw [hlimit, Deadline.due_of_lt hbeyond]
    omega
  case report =>
    obtain ⟨moments, hreport, hverdict, -⟩ := Session.exists_report w s directory
      (.integer s.probeTimeout) plain.backend plain.config
    have htest : Probe.test s directory owner v false w = Probe.testConfig s directory
        (.integer s.probeTimeout) plain.backend plain.config false w := by
      rw [Probe.test, Probe.testWithin, hplain]
    refine ⟨moments, _, hverdict, htest.trans hreport, fun htimeout => ?_⟩
    rw [htest, hreport, htimeout]
    rfl

/-- A limit of fifty milliseconds, after which a bucket that does not answer is given up. -/
theorem timeout_on_time_bucket :
    let vars := DataSource.withKey [("STORAGE_CONNECTION_TEST_TIMEOUT_MS", " 5e1 ")]
    let w := Circumstances.steady none
    let bucket : S3Config := ⟨"b", "", "key", "secret", "", "", false, false⟩
    ∃ s, load (some (environment vars)) = .ok s ∧ s.probeTimeout = 50 ∧
      let x := (Session.ofTest w s "/data" (.integer s.probeTimeout) .s3 bucket).after w
        [.happens (.passes 49), .happens (.passes 1)]
      x.run.deadline.verdict? = some (.interrupted .timeout) ∧
        s.probeTimeout ≤ x.run.deadline.clock := by
  intro vars w bucket
  obtain ⟨s, hs, hlimit⟩ :
      ∃ s, load (some (environment vars)) = .ok s ∧ s.probeTimeout = 50 := ⟨_, rfl, rfl⟩
  have hwithin : s.probeTimeout ≤ Deadline.longest := by rw [hlimit]; decide
  refine ⟨s, hs, hlimit, ?_⟩
  intro x
  have htimeout : x.run.deadline.verdict? = some (.interrupted .timeout) := by
    simp only [x, hlimit]
    rfl
  exact ⟨htimeout, (timeout_on_time hs).2.1 hwithin w "/data" .s3 bucket _ htimeout⟩

/-- **Settings with a limit of over a month, of which one millisecond is waited**: a bucket that has
not answered by then is told as one that did not answer for so long. -/
theorem timeout_early :
    let vars := DataSource.withKey [("STORAGE_CONNECTION_TEST_TIMEOUT_MS", "3000000000")]
    let w := Circumstances.steady none
    let bucket : S3Config := ⟨"b", "", "key", "secret", "", "", false, false⟩
    ∃ s, load (some (environment vars)) = .ok s ∧ s.probeTimeout = 3000000000 ∧
      let x := (Session.ofTest w s "/data" (.integer s.probeTimeout) .s3 bucket).after w
        [.happens (.passes 1)]
      Probe.finding (.integer s.probeTimeout) (Probe.verdict x.run) =
          .failed "timed out after 3000000000ms" ∧
        x.run.deadline.clock = 1 ∧ x.run.deadline.clock < s.probeTimeout := by
  intro vars w bucket
  refine ⟨_, rfl, rfl, ?_, rfl, ?_⟩
  · rfl
  · decide

end Settings

end Depository
