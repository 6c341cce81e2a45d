import Depository.Proofs.Probe.Session

/-!
# Sessions are ended once

The tests of shares and of SFTP servers open a session, and there are two places that end it: what
is arranged for the moment at which the test is told to stop, and the end of the test itself, which
takes back the arrangement and leaves it alone if it was used.  Whatever happens, and in whichever
order, just one of the two ends the session.

The proof follows the session through its stages.  While a call is waited for the session is guarded
(`Run.Guards`); the end of the test turns the guard into one call (`Run.Guards.disarm`), and from
then on nothing can end the session again (`Run.Closed`).

* `Session.Awaits`, `Session.Awaits.step` — a call is waited for, and a moment later it still is, or
  the program goes on;
* `Session.StandsNas`, `Session.StandsSftp` — where the two tests can stand, with one case for each
  stage, `StandsNas.step`, `StandsSftp.step` — a moment keeps that;
* `Session.ended_once` — **whatever happens, the session is ended once**.
-/

namespace Depository

open Check (ask request whenStopped noLonger unlessStopped ensure)

namespace Run

variable {w : Circumstances} {r r' : Run} {call : Call} {m : Method} {n : Nat}

/-- So many calls of a kind were made, and nothing is arranged that could make one more. -/
structure Closed (m : Method) (n : Nat) (r : Run) : Prop where
  free : r.release = none
  made : m.times r.calls = n

/-- The run where the program does not go on: nothing happens, or an event that is not the end of
the program. -/
inductive Drifts (w : Circumstances) (r : Run) : Run → Prop
  | still : Drifts w r r
  | event {e : Deadline.Event (Except Trouble Unit)} (outward : e.IsOutward) :
    Drifts w r (r.advance w e)

theorem Guards.drift (h : r.Guards call) (hd : r.Drifts w r') : r'.Guards call := by
  cases hd with
  | still => exact h
  | event outward => exact h.advance outward

namespace Closed

theorem advance (h : r.Closed m n) (e : Deadline.Event (Except Trouble Unit)) :
    (r.advance w e).Closed m n := by
  rw [advance_of_free h.free]
  exact ⟨h.free, h.made⟩

theorem drift (h : r.Closed m n) (hd : r.Drifts w r') : r'.Closed m n := by
  cases hd with
  | still => exact h
  | event outward => exact h.advance _

/-- The call that was left to be made is made. -/
theorem record (h : r.Closed call.method n) : (r.record call).Closed call.method (n + 1) :=
  ⟨h.free, (Method.times_concat_self _).trans (congrArg (· + 1) h.made)⟩

end Closed

theorem deadline_arrange (release : Option Call) (r : Run) :
    (r.arrange release).deadline = r.deadline := rfl

/-- What was arranged is taken back: the call was made before, or it never will be that way. -/
theorem Guards.disarm (h : r.Guards call) :
    (r.arrange none).Closed call.method (if r.deadline.aborted then 1 else 0) :=
  ⟨ite_self none, h.times_eq⟩

/-- What is arranged for a program that was not told to stop guards it. -/
theorem guards_arrange (hunder : r.deadline.IsUnderWay) (hmade : call.method.times r.calls = 0) :
    (r.arrange (some call)).Guards call :=
  .armed hunder (by simp [Run.arrange, hunder.untold]) hmade

end Run

namespace Session

variable {w : Circumstances} {s s' : Session} {call : Call}
  {next : Except Trouble Json → Check Unit} {before : List (Call × Except Trouble Json)}
  {m : Method} {n : Nat}

/-! ### A call is waited for -/

/-- The program waits for a call, or the call has settled and the program has not gone on yet. -/
inductive Awaits (call : Call) (next : Except Trouble Json → Check Unit)
    (before : List (Call × Except Trouble Json)) (s : Session) : Prop
  | waiting (stage : s.stage = .waits call next) (replies : s.replies = before)
  | settled (reply : Except Trouble Json) (stage : s.stage = .settled call reply next)
    (replies : s.replies = before ++ [(call, reply)])

/-- The session where the program does not go on. -/
structure Rests (w : Circumstances) (s s' : Session) : Prop where
  run : s.run.Drifts w s'.run
  disarmed : s'.disarmed = s.disarmed

/-- **A moment while a call is waited for**: the call is still waited for, or the program goes on
with what the call came to. -/
theorem Awaits.step (h : s.Awaits call next before) (m : Moment) :
    (s.step w m).Awaits call next before ∧ s.Rests w (s.step w m) ∨
      ∃ reply, s.replies = before ++ [(call, reply)] ∧ s.step w m = proceed w (next reply) s := by
  obtain ⟨r, stage, replies, disarmed⟩ := s
  cases h with
  | waiting hstage hreplies =>
    obtain rfl : stage = .waits call next := hstage
    cases m with
    | settles reply =>
      exact .inl ⟨.settled reply rfl (congrArg (· ++ [(call, reply)]) hreplies), .still, rfl⟩
    | resumes => exact .inl ⟨.waiting rfl hreplies, .still, rfl⟩
    | happens h => exact .inl ⟨.waiting rfl hreplies, .event (Run.isOutward_eventOf h), rfl⟩
    | delivers => exact .inl ⟨.waiting rfl hreplies, .event trivial, rfl⟩
  | settled reply hstage hreplies =>
    obtain rfl : stage = .settled call reply next := hstage
    cases m with
    | settles other => exact .inl ⟨.settled reply rfl hreplies, .still, rfl⟩
    | resumes => exact .inr ⟨reply, hreplies, rfl⟩
    | happens h => exact .inl ⟨.settled reply rfl hreplies, .event (Run.isOutward_eventOf h), rfl⟩
    | delivers => exact .inl ⟨.settled reply rfl hreplies, .event trivial, rfl⟩

/-- A program that waits is not over, so nothing is left to be done only if it was told to stop. -/
theorem Awaits.aborted (h : s.Awaits call next before) (hs : s.IsComplete) :
    s.run.deadline.aborted = true := by
  rcases hs with hover | ⟨-, htold⟩
  · cases h with
    | waiting stage _ => cases stage.symm.trans hover
    | settled _ stage _ => cases stage.symm.trans hover
  · exact htold

theorem Awaits.mem_replies (h : s.Awaits call next before) {x : Call × Except Trouble Json}
    (hx : x ∈ before) : x ∈ s.replies := by
  cases h with
  | waiting _ replies => rwa [replies]
  | settled _ _ replies => rw [replies]; exact List.mem_append_left _ hx

/-- A moment when the program is over. -/
theorem step_finished (h : s.stage = .finished) (m : Moment) :
    (s.step w m).stage = .finished ∧ (s.step w m).replies = s.replies ∧ s.Rests w (s.step w m) := by
  obtain ⟨r, stage, replies, disarmed⟩ := s
  obtain rfl : stage = .finished := h
  cases m with
  | settles reply => exact ⟨rfl, rfl, .still, rfl⟩
  | resumes => exact ⟨rfl, rfl, .still, rfl⟩
  | happens h => exact ⟨rfl, rfl, .event (Run.isOutward_eventOf h), rfl⟩
  | delivers => exact ⟨rfl, rfl, .event trivial, rfl⟩

/-! ### Shares -/

/-- The program is over, and so many calls of a kind were made. -/
structure IsOver (m : Method) (n : Nat) (s : Session) : Prop where
  stage : s.stage = .finished
  closed : s.run.Closed m n

theorem IsOver.step (h : s.IsOver m n) (x : Moment) : (s.step w x).IsOver m n := by
  obtain ⟨hover, -, hrests⟩ := step_finished (w := w) h.stage x
  exact ⟨hover, h.closed.drift hrests.run⟩

theorem isOver_done (h : s.run.Closed m n) (outcome : Except Trouble Unit) :
    (proceed w (.done outcome) s).IsOver m n :=
  ⟨rfl, h.advance _⟩

/-- How the test of a share ends: the arrangement is taken back, and the session is ended unless the
arrangement did that. -/
def endNas (outcome : Except Trouble Unit) : Check Unit :=
  ensure (.done outcome)
    (do
      noLonger
      unlessStopped (Check.run .smbDisconnect))

/-- The client of a share. -/
def smbClient (c : NasConfig) : Call :=
  .smbClient ("\\\\" ++ c.host ++ "\\" ++ c.share) ((Probe.filled? c.domain).getD
    Probe.defaultDomain) c.username c.password c.port

/-- What the test of a share does with its client. -/
def listNas (c : NasConfig) : Except Trouble Unit → Check Unit
  | .error t => .done (.error t)
  | .ok () => .arrange (some .smbDisconnect)
      (.await (.smbList (SmbPath.ofPath c.path)) fun reply => endNas (reply.map fun _ => ()))

theorem checkNas_eq (c : NasConfig) :
    Probe.checkNas c = .perform (smbClient c) (listNas c) := by
  refine congrArg (Check.perform (smbClient c)) (funext fun made => ?_)
  cases made with
  | error t => rfl
  | ok _ =>
    refine congrArg (fun next => Check.arrange (some .smbDisconnect) (Check.await _ next)) ?_
    funext reply
    cases reply <;> rfl

theorem endNas_eq (outcome : Except Trouble Unit) :
    endNas outcome = .arrange none (.look fun told =>
      if told then .done outcome
      else .perform .smbDisconnect fun r => .done (r.bind fun _ => outcome)) := by
  refine congrArg (fun next => Check.arrange none (Check.look next)) (funext fun told => ?_)
  cases told with
  | true => rfl
  | false => exact congrArg (Check.perform .smbDisconnect) (funext fun r => by cases r <;> rfl)

/-- The end of the test of a share ends the session, unless that was done before. -/
theorem isOver_endNas (h : s.run.Guards .smbDisconnect) (outcome : Except Trouble Unit) :
    (proceed w (endNas outcome) s).IsOver .smbDisconnect 1 := by
  have hclosed := h.disarm
  rw [endNas_eq]
  simp only [proceed]
  by_cases htold : s.run.deadline.aborted = true
  · rw [if_pos htold] at hclosed
    rw [Run.deadline_arrange, htold]
    exact isOver_done hclosed _
  · rw [if_neg htold] at hclosed
    rw [Run.deadline_arrange, Bool.eq_false_iff.2 htold]
    refine isOver_done ?_ _
    dsimp only
    split
    · exact hclosed.record.advance _
    · exact hclosed.record

/-- Where the test of a share can stand. -/
inductive StandsNas (c : NasConfig) (s : Session) : Prop
  | listing
    (awaits : s.Awaits (.smbList (SmbPath.ofPath c.path))
      (fun reply => endNas (reply.map fun _ => ())) [])
    (guards : s.run.Guards .smbDisconnect)
  | ended (isOver : s.IsOver .smbDisconnect 1)

namespace StandsNas

variable {c : NasConfig}

theorem step (h : s.StandsNas c) (m : Moment) : (s.step w m).StandsNas c := by
  cases h with
  | listing awaits guards =>
    obtain ⟨hawaits, hrests⟩ | ⟨reply, -, hnext⟩ := awaits.step m
    · exact .listing hawaits (guards.drift hrests.run)
    · rw [hnext]
      exact .ended (isOver_endNas guards _)
  | ended isOver => exact .ended (isOver.step m)

theorem of_start {d : Deadline (Except Trouble Unit)} (hd : d.IsUnderWay)
    (hmade : w.answer (Run.start d) (smbClient c) = ⟨.ok (), false⟩) :
    (start w (Probe.checkNas c) (Run.start d)).StandsNas c := by
  rw [checkNas_eq, start]
  simp only [proceed, hmade, listNas]
  refine .listing (.waiting rfl rfl) ?_
  have hguards : (((Run.start d).record (smbClient c)).arrange (some .smbDisconnect)).Guards
      .smbDisconnect := Run.guards_arrange hd rfl
  exact (hguards.record (by simp [Call.method])).advance trivial

/-- The session is ended once at most, and once if nothing is left to be done. -/
theorem times (h : s.StandsNas c) :
    Method.smbDisconnect.times s.run.calls ≤ 1 ∧
      (s.IsComplete → Method.smbDisconnect.times s.run.calls = 1) := by
  cases h with
  | listing awaits guards =>
    exact ⟨guards.times_le_one, fun hs => guards.times_eq.trans (if_pos (awaits.aborted hs))⟩
  | ended isOver => exact ⟨Nat.le_of_eq isOver.closed.made, fun _ => isOver.closed.made⟩

end StandsNas

/-! ### SFTP servers -/

/-- How the test of an SFTP server ends once the session is open. -/
def endSftp (outcome : Except Trouble Unit) : Check Unit :=
  ensure (.done outcome)
    (do
      noLonger
      unlessStopped (request .sftpEnd))

theorem endSftp_eq (outcome : Except Trouble Unit) :
    endSftp outcome = .arrange none (.look fun told =>
      if told then .done outcome
      else .await .sftpEnd fun reply => .done (reply.bind fun _ => outcome)) := by
  refine congrArg (fun next => Check.arrange none (Check.look next)) (funext fun told => ?_)
  cases told with
  | true => rfl
  | false => exact congrArg (Check.await .sftpEnd) (funext fun r => by cases r <;> rfl)

/-- What an answer about the directory comes to. -/
def foundAt (path : String) (reply : Except Trouble Json) : Except Trouble Unit :=
  reply.bind fun
    | .bool false => .error (.ofMessage ("path \"" ++ path ++ "\" does not exist"))
    | _ => .ok ()

/-- What the test of an SFTP server does with what came of opening the session. -/
def goOnSftp (path : String) : Except Trouble Json → Check Unit
  | .error t => .arrange none (.done (.error t))
  | .ok _ =>
    if path = "" then endSftp (.ok ())
    else .await (.sftpExists path) fun reply => endSftp (foundAt path reply)

/-- The call that opens the session. -/
def sftpConnect (timeout : Number) (c : SftpConfig) : Call :=
  .sftpConnect c.host c.port c.username timeout (Probe.filled? c.password)
    (Probe.filled? c.privateKey) (Probe.pinned? c)

theorem checkSftp_eq (timeout : Number) (c : SftpConfig) :
    Probe.checkSftp timeout c =
      .arrange (some .sftpEnd) (.await (sftpConnect timeout c) (goOnSftp c.path)) := by
  refine congrArg (fun next => Check.arrange (some .sftpEnd) (Check.await _ next)) ?_
  funext opened
  cases opened with
  | error t => rfl
  | ok _ =>
    show ensure (Probe.sftpDirectory c.path) _ = _
    rw [goOnSftp, Probe.sftpDirectory]
    split
    · rfl
    · refine congrArg (Check.await (.sftpExists c.path)) (funext fun reply => ?_)
      cases reply with
      | error t => rfl
      | ok found =>
        cases found with
        | bool b => cases b <;> rfl
        | _ => rfl

/-- Where the test of an SFTP server can stand. -/
inductive StandsSftp (connect : Call) (path : String) (s : Session) : Prop
  | connecting (awaits : s.Awaits connect (goOnSftp path) []) (guards : s.run.Guards .sftpEnd)
    (armed : s.disarmed = none)
  | looking (opened : Json)
    (awaits : s.Awaits (.sftpExists path) (fun reply => endSftp (foundAt path reply))
      [(connect, .ok opened)])
    (guards : s.run.Guards .sftpEnd)
  | ending (opened : Json) (outcome : Except Trouble Unit)
    (before : List (Call × Except Trouble Json)) (connected : (connect, .ok opened) ∈ before)
    (awaits : s.Awaits .sftpEnd (fun reply => .done (reply.bind fun _ => outcome)) before)
    (closed : s.run.Closed .sftpEnd 1)
  | ended (opened : Json) (connected : (connect, .ok opened) ∈ s.replies)
    (isOver : s.IsOver .sftpEnd 1)
  | refused (t : Trouble) (failed : s.replies = [(connect, .error t)]) (told : Bool)
    (disarmed : s.disarmed = some told) (isOver : s.IsOver .sftpEnd (if told then 1 else 0))

namespace StandsSftp

variable {connect : Call} {path : String} {opened : Json}

/-- The end of the test with an open session ends the session, unless that was done before.  It may
have to be waited for. -/
theorem of_endSftp (connected : (connect, .ok opened) ∈ s.replies) (h : s.run.Guards .sftpEnd)
    (outcome : Except Trouble Unit) :
    (proceed w (endSftp outcome) s).StandsSftp connect path := by
  have hclosed := h.disarm
  rw [endSftp_eq]
  simp only [proceed]
  by_cases htold : s.run.deadline.aborted = true
  · rw [if_pos htold] at hclosed
    rw [Run.deadline_arrange, htold]
    exact .ended opened connected (isOver_done hclosed _)
  · rw [if_neg htold] at hclosed
    rw [Run.deadline_arrange, Bool.eq_false_iff.2 htold]
    exact .ending opened outcome s.replies connected (.waiting rfl rfl) (hclosed.record.advance _)

/-- The test goes on with what came of opening the session. -/
theorem of_reply {reply : Except Trouble Json} (hreplies : s.replies = [(connect, reply)])
    (guards : s.run.Guards .sftpEnd) (armed : s.disarmed = none) :
    (proceed w (goOnSftp path reply) s).StandsSftp connect path := by
  cases reply with
  | error t =>
    refine .refused t hreplies s.run.deadline.aborted ?_ (isOver_done guards.disarm _)
    exact congrArg (Option.or · _) armed
  | ok opened =>
    rw [goOnSftp]
    split
    · exact of_endSftp (by rw [hreplies]; exact List.mem_singleton_self _) guards _
    · exact .looking opened (.waiting rfl hreplies)
        ((guards.record (by simp [Call.method])).advance trivial)

theorem step (h : s.StandsSftp connect path) (m : Moment) :
    (s.step w m).StandsSftp connect path := by
  cases h with
  | connecting awaits guards armed =>
    obtain ⟨hawaits, hrests⟩ | ⟨reply, hreplies, hnext⟩ := awaits.step m
    · exact .connecting hawaits (guards.drift hrests.run) (hrests.disarmed.trans armed)
    · rw [hnext]
      exact of_reply hreplies guards armed
  | looking opened awaits guards =>
    obtain ⟨hawaits, hrests⟩ | ⟨reply, hreplies, hnext⟩ := awaits.step m
    · exact .looking opened hawaits (guards.drift hrests.run)
    · rw [hnext]
      exact of_endSftp (by rw [hreplies]; exact List.mem_append_left _ (List.mem_singleton_self _))
        guards _
  | ending opened outcome before connected awaits closed =>
    obtain ⟨hawaits, hrests⟩ | ⟨reply, hreplies, hnext⟩ := awaits.step m
    · exact .ending opened outcome before connected hawaits (closed.drift hrests.run)
    · rw [hnext]
      exact .ended opened (by rw [proceed, hreplies]; exact List.mem_append_left _ connected)
        (isOver_done closed _)
  | ended opened connected isOver =>
    obtain ⟨-, hreplies, -⟩ := step_finished (w := w) isOver.stage m
    exact .ended opened (hreplies ▸ connected) (isOver.step m)
  | refused t failed told disarmed isOver =>
    obtain ⟨-, hreplies, hrests⟩ := step_finished (w := w) isOver.stage m
    exact .refused t (hreplies.trans failed) told (hrests.disarmed.trans disarmed) (isOver.step m)

theorem of_start {d : Deadline (Except Trouble Unit)} (hd : d.IsUnderWay) (timeout : Number)
    (c : SftpConfig) :
    (start w (Probe.checkSftp timeout c) (Run.start d)).StandsSftp (sftpConnect timeout c)
      c.path := by
  rw [checkSftp_eq]
  have hguards : ((Run.start d).arrange (some .sftpEnd)).Guards .sftpEnd :=
    Run.guards_arrange hd rfl
  exact .connecting (.waiting rfl rfl)
    ((hguards.record (by simp [sftpConnect, Call.method])).advance trivial) rfl

/-- The session is ended once at most, and how often if nothing is left to be done. -/
theorem times (h : s.StandsSftp connect path) :
    Method.sftpEnd.times s.run.calls ≤ 1 ∧
      (s.IsComplete → (∃ opened, (connect, .ok opened) ∈ s.replies) ∨ s.wasToldInTime = true →
        Method.sftpEnd.times s.run.calls = 1) ∧
      ((∀ opened, (connect, .ok opened) ∉ s.replies) → s.wasToldInTime = false →
        Method.sftpEnd.times s.run.calls = 0) := by
  cases h with
  | connecting awaits guards armed =>
    refine ⟨guards.times_le_one, fun hs _ => guards.times_eq.trans (if_pos (awaits.aborted hs)), ?_⟩
    intro _ hfalse
    rw [wasToldInTime, armed] at hfalse
    exact guards.times_eq.trans (if_neg (Bool.eq_false_iff.1 hfalse))
  | looking opened awaits guards =>
    refine ⟨guards.times_le_one, fun hs _ => guards.times_eq.trans (if_pos (awaits.aborted hs)), ?_⟩
    exact fun hnone => absurd (awaits.mem_replies (List.mem_singleton_self _)) (hnone opened)
  | ending opened outcome before connected awaits closed =>
    exact ⟨Nat.le_of_eq closed.made, fun _ _ => closed.made,
      fun hnone => absurd (awaits.mem_replies connected) (hnone opened)⟩
  | ended opened connected isOver =>
    exact ⟨Nat.le_of_eq isOver.closed.made, fun _ _ => isOver.closed.made,
      fun hnone => absurd connected (hnone opened)⟩
  | refused t failed told disarmed isOver =>
    have hmade := isOver.closed.made
    have htold : s.wasToldInTime = told := by rw [wasToldInTime, disarmed, Option.getD_some]
    rw [htold, failed]
    refine ⟨?_, fun _ hcause => ?_, fun _ hfalse => ?_⟩
    · rw [hmade]
      split <;> decide
    · obtain ⟨opened, hopened⟩ | rfl := hcause
      · cases List.mem_singleton.1 hopened
      · exact hmade
    · rw [hmade, hfalse]
      rfl

end StandsSftp

/-! ### The tests -/

/-- **The session of a share or of an SFTP server is ended once.**  Take any settings, limit and
configuration, anything that comes of the calls, and any order in which calls settle or never do,
the program goes on, time passes and the caller gives up.  If the client of the share was made
before any of that, it is disconnected once at most, and once if nothing is left to be done; a
client that could not be made is not disconnected.  The session of an SFTP server is ended once at
most; if nothing is left to be done, it was ended once if it was opened or if the test was told to
stop before its cleanup; and it is not ended while it was not opened and the test was not told.
The calls that a test reports are those of such an order of events, with nothing left to be done. -/
theorem ended_once (w : Circumstances) (s : Settings) (directory : String)
    (limit : Number) :
    (∀ (c : NasConfig) (moments : List Moment),
      let made := w.answer (fresh limit) (smbClient c)
      let x := (ofTest w s directory limit .nas c).after w moments
      let ended := Method.smbDisconnect.times x.run.calls
      (made = ⟨.ok (), false⟩ → ended ≤ 1 ∧ (x.IsComplete → ended = 1)) ∧
        ∀ t, made.outcome = .error t → ended = 0) ∧
    (∀ (c : SftpConfig) (moments : List Moment),
      let x := (ofTest w s directory limit .sftp c).after w moments
      let ended := Method.sftpEnd.times x.run.calls
      ended ≤ 1 ∧
        (x.IsComplete →
          (∃ v, (sftpConnect limit c, .ok v) ∈ x.replies) ∨ x.wasToldInTime = true →
            ended = 1) ∧
        ((∀ v, (sftpConnect limit c, .ok v) ∉ x.replies) → x.wasToldInTime = false → ended = 0)) ∧
    ∀ (b : Backend) (c : b.Config), ∃ moments,
      let x := (ofTest w s directory limit b c).after w moments
      (Probe.testConfig s directory limit b c false w).calls = x.run.calls ∧ x.IsComplete := by
  refine ⟨fun c moments => ⟨fun hmade => ?made, fun t ht => ?unmade⟩, fun c moments => ?sftp,
    fun b c => ?calls⟩
  case made =>
    exact (after_induction (fun _ m h => h.step m)
      (StandsNas.of_start (isUnderWay_fresh limit) hmade) moments).times
  case unmade =>
    have hover : (ofTest w s directory limit .nas c).IsOver .smbDisconnect 0 := by
      show (proceed w (Probe.checkNas c) _).IsOver _ _
      have hclosed : ((fresh limit).record (smbClient c)).Closed .smbDisconnect 0 := ⟨rfl, rfl⟩
      rw [checkNas_eq, proceed, ht]
      refine isOver_done ?_ _
      dsimp only
      split
      · exact hclosed.advance _
      · exact hclosed
    exact (after_induction (fun _ m h => h.step m) hover moments).closed.made
  case sftp =>
    exact (after_induction (fun _ m h => h.step m)
      (StandsSftp.of_start (isUnderWay_fresh limit) limit c) moments).times
  case calls =>
    obtain ⟨moments, hcalls, hcomplete, -⟩ := exists_testConfig w s directory limit b c
    exact ⟨moments, hcalls, hcomplete⟩

/-- A share whose list never comes, and a server on which the caller gives up after the session was
opened but before the test went on. -/
theorem ended_once_late :
    let s := Settings.defaults "key"
    let w := Circumstances.steady none
    let share : NasConfig := ⟨"nas", 445, "backups", "u", "p", false, "", ""⟩
    let server : SftpConfig := ⟨"host", 22, "u", "p", "", false, "", ""⟩
    let listed := (ofTest w s "/data" (.integer 10) .nas share).after w [.happens (.passes 10)]
    let opened := (ofTest w s "/data" (.integer 10) .sftp server).after w
      [.settles (.ok .null), .happens .cancels, .resumes]
    (w.answer (fresh (.integer 10)) (smbClient share) = ⟨.ok (), false⟩ ∧ listed.IsComplete ∧
        Method.smbDisconnect.times listed.run.calls = 1) ∧
      opened.IsComplete ∧ (∃ v, (sftpConnect (.integer 10) server, .ok v) ∈ opened.replies) ∧
        Method.sftpEnd.times opened.run.calls = 1 := by
  intro s w share server listed opened
  obtain ⟨hnas, hsftp, -⟩ := ended_once w s "/data" (.integer 10)
  have hlisted : listed.IsComplete := .inr ⟨⟨_, _, rfl⟩, rfl⟩
  have hopened : opened.IsComplete := .inl rfl
  have hreply : ∃ v, (sftpConnect (.integer 10) server, .ok v) ∈ opened.replies :=
    ⟨.null, List.mem_singleton_self _⟩
  exact ⟨⟨rfl, hlisted, ((hnas share _).1 rfl).2 hlisted⟩, hopened, hreply,
    (hsftp server _).2.1 hopened (.inl hreply)⟩

end Session

end Depository
