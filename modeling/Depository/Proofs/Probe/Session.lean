import Depository.Proofs.Probe.Release

/-!
# Connection tests event by event

In `Probe.play` the circumstances decide at once what happens while a call is waited for and how it
is answered.  Here the same programs are run event by event, in any order of events.  That a call
settles and that the program goes on with what it came to are two events, so that time may pass and
the caller may give up before the call settles, after it but before the program goes on, and after
the program is over.  A call may also never settle.

Every play is a session in some order of events (`Session.exists_play`), so what holds of sessions
in every order holds of connection tests.  If the circumstances leave no call without an answer, the
program is over at its end.

* `Session` — how far a program has come, and what it met with so far;
* `Moment` — the events, and `Session.step`, `Session.after`, what one of them and a sequence of
  them does;
* `Circumstances.steady` — plain circumstances, for instances;
* `Session.IsComplete` — nothing is left to be done, or what is left is never done;
* `Session.ofTest` — the session in which the test of a configuration begins, and
  `Session.exists_report` — what a test reports is that of such a session.
-/

namespace Depository

/-- What a program waits for. -/
inductive Stage where
  | waits (call : Call) (next : Except Trouble Json → Check Unit)
  /-- The call has settled, but the program has not gone on yet. -/
  | settled (call : Call) (reply : Except Trouble Json) (next : Except Trouble Json → Check Unit)
  | finished

/-- A program on its way. -/
structure Session where
  run : Run
  stage : Stage
  /-- What the calls that were waited for have come to, in order. -/
  replies : List (Call × Except Trouble Json)
  /-- Whether the program had been told to stop when it took back what was arranged; none before
  that. -/
  disarmed : Option Bool

/-- What can happen to a program on its way. -/
inductive Moment where
  /-- The call that is waited for settles. -/
  | settles (reply : Except Trouble Json)
  /-- The program goes on with what the call came to. -/
  | resumes
  | happens (h : Happening)
  /-- The verdict reaches the caller. -/
  | delivers

/-- No call that is waited for is left without a reply in these circumstances. -/
def Circumstances.AlwaysReply (w : Circumstances) : Prop :=
  ∀ r call, (w.waiting r call).reply.isSome = true

/-- Circumstances in which what is answered at once goes well, and every other call comes to this
while nothing else happens. -/
def Circumstances.steady (reply : Option (Except Trouble Json)) : Circumstances where
  answer _ _ := ⟨.ok (), false⟩
  waiting _ _ := ⟨[], reply⟩
  releaseTrouble _ _ := none
  freshId _ := "1"

namespace Session

variable (w : Circumstances)

/-- The session in which the program goes on to where it waits for the next time.  What the calls
come to that are answered at once is for the circumstances to say. -/
def proceed : Check Unit → Session → Session
  | .done outcome, s => { s with run := s.run.advance w (.settled outcome), stage := .finished }
  | .perform call next, s =>
    let a := w.answer s.run call
    let r := s.run.record call
    proceed (next a.outcome) { s with run := if a.cancels then r.advance w .cancelled else r }
  | .await call next, s =>
    { s with run := (s.run.record call).advance w .suspended, stage := .waits call next }
  | .arrange release next, s =>
    proceed next
      { s with
        run := s.run.arrange release
        disarmed := if release.isNone then s.disarmed.or (some s.run.deadline.aborted)
          else s.disarmed }
  | .look next, s => proceed (next s.run.deadline.aborted) s
  | .draw next, s =>
    proceed (next (w.freshId s.run.drawn)) { s with run.drawn := s.run.drawn + 1 }

/-- The session when a call was made that is answered at once. -/
def performed (w : Circumstances) (s : Session) (call : Call) : Session :=
  { s with
    run :=
      if (w.answer s.run call).cancels then (s.run.record call).advance w .cancelled
      else s.run.record call }

/-- The session of a program at its first wait. -/
def start (c : Check Unit) (r : Run) : Session := proceed w c ⟨r, .finished, [], none⟩

/-- The session after an event; one that makes no sense where the program stands does nothing. -/
def step (s : Session) : Moment → Session
  | .settles reply =>
    match s.stage with
    | .waits call next =>
      { s with stage := .settled call reply next, replies := s.replies ++ [(call, reply)] }
    | .settled .. | .finished => s
  | .resumes =>
    match s.stage with
    | .settled _ reply next => proceed w (next reply) s
    | .waits .. | .finished => s
  | .happens h => { s with run := s.run.advance w (Run.eventOf h) }
  | .delivers => { s with run := s.run.advance w .delivered }

/-- The session after events, one after another. -/
def after (s : Session) (moments : List Moment) : Session := moments.foldl (step w) s

/-- Nothing is left to be done: the program is over, or it waits for a call that never settles and
was told to stop. -/
def IsComplete (s : Session) : Prop :=
  s.stage = .finished ∨ (∃ call next, s.stage = .waits call next) ∧ s.run.deadline.aborted = true

/-- The program had been told to stop before it took back what was arranged. -/
def wasToldInTime (s : Session) : Bool := s.disarmed.getD s.run.deadline.aborted

variable {w}

theorem after_append (s : Session) (ms ns : List Moment) :
    s.after w (ms ++ ns) = (s.after w ms).after w ns := List.foldl_append

/-- While a program waits, what happens does nothing but to its run. -/
theorem after_happens (s : Session) (happenings : List Happening) :
    s.after w (happenings.map .happens) = { s with run := s.run.happen w happenings } := by
  induction happenings generalizing s with
  | nil => rfl
  | cons h rest ih => exact ih { s with run := s.run.advance w (Run.eventOf h) }

/-- What every moment keeps is there after any number of them. -/
theorem after_induction {P : Session → Prop} (hstep : ∀ s m, P s → P (s.step w m)) (h : P s)
    (moments : List Moment) : P (s.after w moments) := by
  unfold after
  induction moments generalizing s with
  | nil => exact h
  | cons m rest ih => exact ih (hstep s m h)

/-- **Every play is a session in some order of events**, at whose end the session is complete, and
the program is over if no call is left without a reply. -/
theorem exists_play (c : Check Unit) (s : Session) (hopen : s.run.deadline.IsOpen) :
    ∃ moments, ((proceed w c s).after w moments).run = Probe.play w c s.run ∧
      ((proceed w c s).after w moments).IsComplete ∧
      (w.AlwaysReply → ((proceed w c s).after w moments).stage = .finished) := by
  induction c generalizing s with
  | done outcome => exact ⟨[], rfl, .inl rfl, fun _ => rfl⟩
  | perform call next ih =>
    refine ih _ { s with run := _ } ?_
    show (if _ then _ else _ : Run).deadline.IsOpen
    split
    · rw [Run.deadline_advance]
      exact hopen.step trivial
    · exact hopen
  | await call next ih =>
    let waiting : Session := proceed w (.await call next) s
    let x := w.waiting s.run call
    show ∃ moments, (waiting.after w moments).run = _ ∧ (waiting.after w moments).IsComplete ∧
      (w.AlwaysReply → (waiting.after w moments).stage = .finished)
    let called : Run := waiting.run.happen w x.happenings
    have hcalled : waiting.after w (x.happenings.map .happens) = { waiting with run := called } :=
      after_happens waiting x.happenings
    have hrun : waiting.run.deadline = s.run.deadline.step .suspended := Run.deadline_advance ..
    have hstarted : waiting.run.deadline.hasStarted = true := by
      rw [hrun]
      exact Deadline.hasStarted_suspend _
    have hopen' : called.deadline.IsOpen := by
      refine Run.isOpen_happen ?_ x.happenings
      rw [hrun]
      exact hopen.step trivial
    cases hreply : x.reply with
    | none =>
      -- the call is never answered, so its time is over at last
      let lapse : Happening := .passes (Deadline.due called.deadline.limit - called.deadline.clock)
      have hend : waiting.after w (x.happenings.map .happens ++ [.happens lapse]) =
          { waiting with run := called.exhaust w } := by
        rw [after_append, hcalled]
        rfl
      refine ⟨x.happenings.map .happens ++ [.happens lapse], ?_, ?_, fun hw => ?_⟩
      · have hplay : Probe.play w (.await call next) s.run = called.exhaust w := by
          rw [Probe.play]
          simp only [x] at hreply
          rw [hreply]
          rfl
        rw [hplay]
        exact congrArg Session.run hend
      · rw [hend]
        refine .inr ⟨⟨call, next, rfl⟩, ?_⟩
        show (called.exhaust w).deadline.aborted = true
        rw [Run.exhaust, Run.deadline_advance]
        exact hopen'.aborted_of_due (Run.hasStarted_happen w _ hstarted)
      · have hsome := hw s.run call
        rw [show (w.waiting s.run call).reply = none from hreply] at hsome
        cases hsome
    | some reply =>
      let answered : Session :=
        { waiting with
          run := called, stage := .settled call reply next
          replies := waiting.replies ++ [(call, reply)] }
      obtain ⟨rest, hrest, hcomplete⟩ := ih reply answered hopen'
      have hend :
          waiting.after w (x.happenings.map .happens ++ .settles reply :: .resumes :: rest) =
            (proceed w (next reply) answered).after w rest := by
        rw [after_append, hcalled]
        rfl
      refine ⟨x.happenings.map .happens ++ .settles reply :: .resumes :: rest, ?_, ?_⟩
      · have hplay : Probe.play w (.await call next) s.run =
            Probe.play w (next reply) answered.run := by
          rw [Probe.play]
          simp only [x] at hreply
          rw [hreply]
          rfl
        rw [hplay, ← hrest]
        exact congrArg Session.run hend
      · rw [hend]
        exact hcomplete
  | arrange release next ih => exact ih _ hopen
  | look next ih => exact ih _ _ hopen
  | draw next ih => exact ih _ _ hopen

/-! ### Connection tests -/

/-- The run with which a test begins. -/
def fresh (limit : Number) : Run := Run.start ⟨limit, 0, false, .starting none⟩

/-- The session in which the test of a configuration begins. -/
def ofTest (w : Circumstances) (s : Settings) (directory : String) (limit : Number) (b : Backend)
    (c : b.Config) : Session :=
  start w (Probe.check s directory limit b c) (fresh limit)

theorem isUnderWay_fresh (limit : Number) : (fresh limit).deadline.IsUnderWay :=
  ⟨rfl, .inl rfl⟩

/-- What a test reports is that of a session in which nothing is left to be done and the verdict has
fallen; if no call is left without a reply, its program is over. -/
theorem exists_report (w : Circumstances) (s : Settings) (directory : String) (limit : Number)
    (b : Backend) (c : b.Config) :
    ∃ moments, let x := (ofTest w s directory limit b c).after w moments
      Probe.testConfig s directory limit b c false w =
          Probe.report b (Probe.finding limit (Probe.verdict x.run)) x.run ∧
        x.run.deadline.verdict? = some (Probe.verdict x.run) ∧
        x.IsComplete ∧ (w.AlwaysReply → x.stage = .finished) := by
  obtain ⟨moments, hrun, hcomplete⟩ := exists_play (w := w) (Probe.check s directory limit b c)
    ⟨fresh limit, .finished, [], none⟩ (.inl (isUnderWay_fresh limit))
  refine ⟨moments, ?_, ?_, hcomplete⟩
  · rw [ofTest, start, hrun]
    rfl
  · obtain ⟨v, hv⟩ := Option.isSome_iff_exists.1
      (Probe.play_decided w (Probe.check s directory limit b c) (fresh limit))
    rw [ofTest, start, hrun, Probe.verdict]
    simp only [hv, Option.getD_some]

/-- The calls of a test are those of a session in which nothing is left to be done; if no call is
left without a reply, its program is over. -/
theorem exists_testConfig (w : Circumstances) (s : Settings) (directory : String) (limit : Number)
    (b : Backend) (c : b.Config) :
    ∃ moments, let x := (ofTest w s directory limit b c).after w moments
      (Probe.testConfig s directory limit b c false w).calls = x.run.calls ∧
        x.IsComplete ∧ (w.AlwaysReply → x.stage = .finished) := by
  obtain ⟨moments, hreport, -, hend⟩ := exists_report w s directory limit b c
  exact ⟨moments, hreport ▸ Probe.calls_report .., hend⟩

end Session

end Depository
