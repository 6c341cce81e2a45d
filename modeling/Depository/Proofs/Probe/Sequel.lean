import Depository.Proofs.Probe.Law
import Depository.Proofs.Probe.Session

/-!
# What a test starts next

A test that was told to stop is told so through what it arranged and through the calls that follow
the signal themselves.  Between two calls it does not look: whether it starts another operation is
decided by the backend, the configuration and what the call before came to (`Probe.following`), and
not by whether anybody still waits for the outcome.  The tests of buckets, shares and containers
make one call that is waited for, so there is nothing for them to go on with.

* `Method.isRelease`, `operations` — the calls that only release something, and all others;
* `Probe.agenda` — the law that a test starts just what follows the call before, and
  `Probe.complies_check` — every test obeys it;
* `Session.OnTrack.after` — in every order of events the operations that are started are those
  that follow the replies with which the program went on;
* `Session.operations_after_stop` — **what a test starts after it was told to stop**, and
  `Session.operations_after_stop_drive` — a drive that is asked for after that.
-/

namespace Depository

open Check (ask request run ensure obeys_bind obeys_attempt obeys_ensure obeys_request)

/-- A call of this kind only releases what was acquired. -/
def Method.isRelease : Method → Bool
  | .s3Destroy | .ftpClose | .smbDisconnect | .sftpEnd | .remove => true
  | _ => false

/-- The kinds of the calls that do not only release something. -/
def operations (calls : List Call) : List Method :=
  (calls.map Call.method).filter fun m => !m.isRelease

theorem operations_concat_of_release {call : Call} (h : call.method.isRelease = true)
    (calls : List Call) : operations (calls ++ [call]) = operations calls := by
  simp [operations, h]

theorem operations_concat {call : Call} (h : call.method.isRelease = false)
    (calls : List Call) : operations (calls ++ [call]) = operations calls ++ [call.method] := by
  simp [operations, h]

namespace Deadline

variable {α : Type}

theorem aborted_settle (outcome : α) (d : Deadline α) :
    (d.settle outcome).aborted = d.aborted := by
  obtain ⟨limit, clock, aborted, phase⟩ := d
  cases phase <;> rfl

theorem aborted_suspend (d : Deadline α) : d.suspend.aborted = d.aborted := by
  obtain ⟨limit, clock, aborted, phase⟩ := d
  cases phase with
  | starting pending => cases pending <;> rfl
  | _ => rfl

end Deadline

namespace Probe

/-! ### What is due -/

/-- What a test starts when an operation of this kind has come to a value, if there is anything. -/
def following : (b : Backend) → b.Config → Method → Json → Option Method
  | .localDisk, _, .makeDirectory, _ => some .writeFile
  | .ftp, c, .ftpAccess, _ => if c.path = "" then none else some .ftpEnter
  | .sftp, c, .sftpConnect, _ => if c.path = "" then none else some .sftpExists
  | .googleDrive, _, .googleAccessToken, v =>
    if (v.get? "token").any Json.isTruthy then some .googleRequest else none
  | .rclone, _, .makeWorkDirectory, d =>
    if (Cell.text? (some d)).isSome then some .writeFile else none
  | .rclone, _, .writeFile, _ => some .runProgram
  | _, _, _, _ => none

/-- What a test starts when a call has settled: nothing after trouble. -/
def sequel (b : Backend) (c : b.Config) : Call × Except Trouble Json → Option Method
  | (call, .ok v) => following b c call.method v
  | (_, .error _) => none

/-- What is due of a test. -/
inductive Due where
  /-- It has not waited for anything yet and may start what it wants. -/
  | anything
  /-- It starts this operation and then only releases things. -/
  | only (operation : Option Method)

namespace Due

/-- A call of this kind is due. -/
def admits : Due → Method → Prop
  | anything, _ => True
  | only none, m => m.isRelease = true
  | only (some operation), m => operation = m ∧ m.isRelease = false

/-- What is due after a call that is answered at once. -/
def afterwards : Due → Due
  | anything => anything
  | only _ => only none

/-- Nothing is left that has to be started. -/
def isMet : Due → Prop
  | only (some _) => False
  | anything | only none => True

end Due

/-- A test starts what follows the call before, and arranges nothing but a release. -/
def agenda (b : Backend) (c : b.Config) : Law Due where
  perform call x after := x.admits call.method ∧ after x.afterwards
  await call x after :=
    x.admits call.method ∧ ∀ reply, after reply (.only (sequel b c (call, reply)))
  arrange release x after := (∀ call ∈ release, call.method.isRelease = true) ∧ after x
  look x after := ∀ told, after told x

/-- The program obeys the agenda of a test. -/
abbrev Complies (b : Backend) (c : b.Config) (x : Due) (p : Check Unit) : Prop :=
  p.Obeys (agenda b c) (fun _ y => y.isMet) x

section Rules

variable {b : Backend} {c : b.Config} {x : Due} {call : Call} {p : Check Unit}
  {K : Except Trouble Unit → Due → Prop}

/-- A call that is answered at once before the program waits: it may start anything afterwards. -/
theorem obeys_first {f : Unit → Check Unit} (h : (f ()).Obeys (agenda b c) K .anything)
    (hK : ∀ t, K (.error t) .anything) : (run call >>= f).Obeys (agenda b c) K .anything := by
  refine obeys_bind.2 ⟨trivial, fun made => ?_⟩
  cases made with
  | error t => exact hK t
  | ok _ => exact h

/-- A call that is waited for: what follows it is due. -/
theorem obeys_ask_bind {f : Json → Check Unit} (hadmits : x.admits call.method)
    (h : ∀ v, (f v).Obeys (agenda b c) K (.only (following b c call.method v)))
    (hK : ∀ t, K (.error t) (.only none)) : (ask call >>= f).Obeys (agenda b c) K x := by
  refine obeys_bind.2 ⟨hadmits, fun reply => ?_⟩
  cases reply with
  | error t => exact hK t
  | ok v => exact h v

/-- The same if the answer does not matter. -/
theorem obeys_request_bind {f : Unit → Check Unit} (hadmits : x.admits call.method)
    (h : ∀ v, (f ()).Obeys (agenda b c) K (.only (following b c call.method v)))
    (hK : ∀ t, K (.error t) (.only none)) : (request call >>= f).Obeys (agenda b c) K x := by
  refine obeys_bind.2 (obeys_request.2 ⟨hadmits, fun reply => ?_⟩)
  cases reply with
  | error t => exact hK t
  | ok v => exact h v

/-- The last operation: nothing follows it. -/
theorem obeys_last (hadmits : x.admits call.method)
    (hnone : ∀ v, following b c call.method v = none) (hK : ∀ r, K r (.only none)) :
    (request call).Obeys (agenda b c) K x := by
  refine obeys_request.2 ⟨hadmits, fun reply => ?_⟩
  cases reply with
  | error t => exact hK _
  | ok v =>
    rw [sequel, hnone]
    exact hK _

/-- Nothing follows a release. -/
theorem following_of_isRelease {m : Method} (h : m.isRelease = true) (v : Json) :
    following b c m v = none := by
  cases m <;> first | (cases b <;> rfl) | cases h

theorem obeys_runRelease (h : call.method.isRelease = true) (hK : ∀ r, K r (.only none)) :
    (run call).Obeys (agenda b c) K (.only none) :=
  ⟨h, hK⟩

theorem obeys_requestRelease (h : call.method.isRelease = true) (hK : ∀ r, K r (.only none)) :
    (request call).Obeys (agenda b c) K (.only none) :=
  obeys_last h (following_of_isRelease h) hK

/-- A release is arranged for when the program is told to stop. -/
theorem obeys_whenStopped (hrelease : call.method.isRelease = true)
    (h : p.Obeys (agenda b c) K x) : (do Check.whenStopped call; p).Obeys (agenda b c) K x :=
  obeys_bind.2 ⟨by simp [hrelease], h⟩

/-- What was arranged is taken back. -/
theorem obeys_noLonger (h : p.Obeys (agenda b c) K x) :
    (do Check.noLonger; p).Obeys (agenda b c) K x :=
  obeys_bind.2 ⟨by simp, h⟩

/-- The cleanup is left out when the program was told to stop. -/
theorem obeys_unlessStopped (h : p.Obeys (agenda b c) K (.only none))
    (hK : ∀ r, K r (.only none)) :
    (Check.unlessStopped p).Obeys (agenda b c) K (.only none) := by
  intro told
  cases told with
  | true => exact hK _
  | false => exact h

end Rules

/-- Nothing follows where only one call is waited for. -/
theorem sequel_of_single {b : Backend} {c : b.Config} (hb : b = .s3 ∨ b = .nas ∨ b = .azureBlob)
    (x : Call × Except Trouble Json) : sequel b c x = none := by
  obtain ⟨call, reply⟩ := x
  cases reply with
  | error t => rfl
  | ok v => rcases hb with rfl | rfl | rfl <;> rfl

/-! ### The tests of the backends -/

theorem complies_checkLocal (directory : String) (c : LocalConfig) :
    Complies .localDisk c .anything (checkLocal directory) := by
  refine obeys_request_bind trivial (fun made => ?_) fun _ => trivial
  refine obeys_bind.2 fun id => obeys_request_bind ⟨rfl, rfl⟩ (fun written => ?_) fun _ => trivial
  exact obeys_requestRelease rfl fun _ => trivial

theorem complies_checkS3 (c : S3Config) : Complies .s3 c .anything (checkS3 c) := by
  refine obeys_first (obeys_ensure.2 ?_) fun _ => trivial
  exact obeys_last trivial (fun _ => rfl) fun _ => obeys_runRelease rfl fun _ => trivial

theorem complies_checkNas (c : NasConfig) : Complies .nas c .anything (checkNas c) := by
  refine obeys_first (obeys_whenStopped rfl (obeys_ensure.2 ?_)) fun _ => trivial
  refine obeys_last trivial (fun _ => rfl) fun _ => obeys_noLonger ?_
  exact obeys_unlessStopped (obeys_runRelease rfl fun _ => trivial) fun _ => trivial

theorem complies_checkAzure (c : AzureConfig) : Complies .azureBlob c .anything (checkAzure c) := by
  have hexists : Complies .azureBlob c .anything (do
      run (.azureContainer c.container)
      let found ← ask .azureExists
      unless found.isTruthy do
        Check.failWith ("container \"" ++ c.container ++ "\" does not exist")) := by
    refine obeys_first (obeys_ask_bind trivial (fun v => ?_) fun _ => trivial) fun _ => trivial
    split <;> trivial
  rw [checkAzure, azureService]
  split <;> exact obeys_first hexists fun _ => trivial

theorem complies_checkFtp (timeout : Number) (c : FtpConfig) :
    Complies .ftp c .anything (checkFtp timeout c) := by
  have hclose (_ : Except Trouble Unit) : (do Check.noLonger; run .ftpClose).Obeys (agenda .ftp c)
      (fun _ y => y.isMet) (.only none) :=
    obeys_noLonger (obeys_runRelease rfl fun _ => trivial)
  refine obeys_first (obeys_whenStopped rfl (obeys_ensure.2 ?_)) fun _ => trivial
  refine obeys_request_bind trivial (fun opened => ?_) fun _ => hclose (.ok ())
  show Check.Obeys _ _ (if c.path = "" then pure () else request (.ftpEnter c.path))
    (Due.only (if c.path = "" then none else some .ftpEnter))
  split
  · exact hclose (.ok ())
  · exact obeys_last ⟨rfl, rfl⟩ (fun _ => rfl) hclose

theorem complies_checkSftp (timeout : Number) (c : SftpConfig) :
    Complies .sftp c .anything (checkSftp timeout c) := by
  have hend (_ : Except Trouble Unit) :
      (do Check.noLonger; Check.unlessStopped (request .sftpEnd)).Obeys (agenda .sftp c)
        (fun _ y => y.isMet) (.only none) :=
    obeys_noLonger (obeys_unlessStopped (obeys_requestRelease rfl fun _ => trivial)
      fun _ => trivial)
  refine obeys_whenStopped rfl (obeys_bind.2 (obeys_attempt.2 (obeys_request.2 ?_)))
  refine ⟨trivial, fun connected => ?_⟩
  cases connected with
  | error t => exact obeys_noLonger (p := .fail t) trivial
  | ok v =>
    refine obeys_ensure.2 ?_
    show Check.Obeys _ _ (if c.path = "" then pure () else _)
      (Due.only (if c.path = "" then none else some .sftpExists))
    split
    · exact hend (.ok ())
    · refine obeys_ask_bind ⟨rfl, rfl⟩ (fun kind => ?_) fun _ => hend (.ok ())
      split <;> exact hend (.ok ())

theorem complies_checkDrive (timeout : Number) (c : DriveConfig) :
    Complies .googleDrive c .anything (checkDrive timeout c) := by
  have htoken (v : Json) : Complies .googleDrive c
      (.only (if (v.get? "token").any Json.isTruthy then some .googleRequest else none))
      (accessToken v >>= fun _ => request (.googleRequest driveAboutUrl timeout)) := by
    refine obeys_bind.2 ?_
    unfold accessToken
    split
    · exact trivial
    · split
      · exact obeys_last ⟨rfl, rfl⟩ (fun _ => rfl) fun _ => trivial
      · exact trivial
  rw [checkDrive]
  split
  · trivial
  · refine obeys_first (obeys_first ?_ fun _ => trivial) fun _ => trivial
    exact obeys_ask_bind trivial htoken fun _ => trivial

theorem complies_checkRclone (program : String) (timeout : Number) (c : RcloneConfig) :
    Complies .rclone c .anything (checkRclone program timeout c) := by
  have hremove (d : Json) (_ : Except Trouble Unit) : (request (.remove (some d) true)).Obeys
      (agenda .rclone c) (fun _ y => y.isMet) (.only none) :=
    obeys_requestRelease rfl fun _ => trivial
  have hremote (remote : String) : Complies .rclone c .anything (do
      let directory ← ask (.makeWorkDirectory workStem)
      ensure (listIn (some directory) program remote timeout c)
        (request (.remove (some directory) true))) := by
    refine obeys_ask_bind trivial (fun d => obeys_ensure.2 ?_) fun _ => trivial
    show Check.Obeys _ _ _
      (Due.only (if (Cell.text? (some d)).isSome then some .writeFile else none))
    unfold listIn
    cases Cell.text? (some d) with
    | none => exact hremove d (.ok ())
    | some directory =>
      refine obeys_request_bind ⟨rfl, rfl⟩ (fun _ => ?_) fun _ => hremove d (.ok ())
      refine obeys_bind.2 (obeys_attempt.2 (obeys_last ⟨rfl, rfl⟩ (fun _ => rfl) fun listed => ?_))
      cases listed <;> exact hremove d (.ok ())
  rw [checkRclone, firstRemote]
  split
  · trivial
  · split
    · trivial
    · trivial
    · exact hremote _

/-- **Every test starts what follows the call before**, and otherwise only releases things. -/
theorem complies_check (s : Settings) (directory : String) (limit : Number) (b : Backend)
    (c : b.Config) : Complies b c .anything (check s directory limit b c) := by
  cases b with
  | localDisk => exact complies_checkLocal directory c
  | s3 => exact complies_checkS3 c
  | nas => exact complies_checkNas c
  | azureBlob => exact complies_checkAzure c
  | ftp => exact complies_checkFtp limit c
  | sftp => exact complies_checkSftp limit c
  | googleDrive => exact complies_checkDrive limit c
  | rclone => exact complies_checkRclone s.rcloneBinary limit c

/-- What is due is started by a call of its kind. -/
theorem Due.operations_concat {operation : Option Method} {call : Call}
    (h : (Due.only operation).admits call.method) (calls : List Call) :
    operations (calls ++ [call]) = operations calls ++ operation.toList := by
  cases operation with
  | none => simpa using operations_concat_of_release h calls
  | some m =>
    obtain ⟨rfl, hrelease⟩ := h
    exact Depository.operations_concat hrelease calls

end Probe

open Probe (Due Complies sequel complies_check)

/-! ### In every order of events -/

namespace Run

variable {w : Circumstances} {r : Run}

/-- Nothing is arranged but a release. -/
def ArrangesRelease (r : Run) : Prop := ∀ call ∈ r.release, call.method.isRelease = true

/-- Whatever happens makes no call but a release. -/
theorem ArrangesRelease.advance (h : r.ArrangesRelease)
    (e : Deadline.Event (Except Trouble Unit)) :
    (r.advance w e).ArrangesRelease ∧ operations (r.advance w e).calls = operations r.calls := by
  obtain ⟨calls, deadline, release, notes, drawn⟩ := r
  unfold Run.advance
  dsimp only
  split
  · cases release with
    | none => exact ⟨h, rfl⟩
    | some call =>
      exact ⟨by simp [ArrangesRelease, fire], operations_concat_of_release (h call rfl) _⟩
  · exact ⟨h, rfl⟩

end Run

namespace Session

variable {w : Circumstances} {s : Session} {b : Backend} {c : b.Config}

/-- The replies with which the program has gone on, in order. -/
def heard (s : Session) : List (Call × Except Trouble Json) :=
  match s.stage with
  | .settled .. => s.replies.dropLast
  | .waits .. | .finished => s.replies

/-- What is left of the program obeys the agenda of the test. -/
structure OnTrack (b : Backend) (c : b.Config) (s : Session) : Prop where
  arranges : s.run.ArrangesRelease
  waits : ∀ call next, s.stage = .waits call next →
    ∀ reply, Complies b c (.only (sequel b c (call, reply))) (next reply)
  settled : ∀ call reply next, s.stage = .settled call reply next →
    Complies b c (.only (sequel b c (call, reply))) (next reply) ∧
      ∃ before, s.replies = before ++ [(call, reply)]

/-- Going on starts what is due. -/
theorem onTrack_proceed (p : Check Unit) (s : Session) {x : Due} (h : Complies b c x p)
    (harranges : s.run.ArrangesRelease) :
    (proceed w p s).OnTrack b c ∧ (proceed w p s).heard = s.replies ∧
      ∀ operation, x = .only operation →
        operations (proceed w p s).run.calls = operations s.run.calls ++ operation.toList := by
  induction p generalizing s x with
  | done outcome =>
    obtain ⟨hkept, hsame⟩ := harranges.advance (w := w) (.settled outcome)
    refine ⟨⟨hkept, ?_, ?_⟩, rfl, ?_⟩
    · rintro _ _ ⟨⟩
    · rintro _ _ _ ⟨⟩
    rintro (_ | operation) rfl
    · exact hsame.trans (List.append_nil _).symm
    · exact h.elim
  | perform call next ih =>
    obtain ⟨hadmits, hnext⟩ := h
    let t : Session := s.performed w call
    have ht : t.run.ArrangesRelease ∧
        operations t.run.calls = operations (s.run.record call).calls := by
      have hrecord : (s.run.record call).ArrangesRelease := harranges
      show (if _ then _ else _ : Run).ArrangesRelease ∧
        operations (if _ then _ else _ : Run).calls = _
      split
      · exact hrecord.advance .cancelled
      · exact ⟨hrecord, rfl⟩
    obtain ⟨htrack, hheard, hstarts⟩ := ih _ t (hnext (w.answer s.run call).outcome) ht.1
    refine ⟨htrack, hheard, ?_⟩
    rintro operation rfl
    refine (hstarts none rfl).trans ?_
    rw [ht.2, Option.toList_none, List.append_nil]
    exact Due.operations_concat hadmits _
  | await call next ih =>
    obtain ⟨hadmits, hnext⟩ := h
    have hrecord : (s.run.record call).ArrangesRelease := harranges
    obtain ⟨hkept, hsame⟩ := hrecord.advance (w := w) .suspended
    refine ⟨⟨hkept, ?_, ?_⟩, rfl, ?_⟩
    · rintro _ _ ⟨⟩ reply
      exact hnext reply
    · rintro _ _ _ ⟨⟩
    · rintro operation rfl
      exact hsame.trans (Due.operations_concat hadmits _)
  | arrange release next ih =>
    obtain ⟨hrelease, hnext⟩ := h
    refine ih { s with run := _, disarmed := _ } hnext ?_
    show ∀ call ∈ (if s.run.deadline.aborted then none else release : Option Call), _
    split
    · exact fun _ hnone => absurd hnone (by simp)
    · exact hrelease
  | look next ih => exact ih _ s (h _) harranges
  | draw next ih => exact ih _ { s with run := _ } (h _) harranges

namespace OnTrack

/-- The session after a moment, and what the moment adds to the replies that were heard and to the
operations that were started. -/
theorem step (h : s.OnTrack b c) (m : Moment) :
    (s.step w m).OnTrack b c ∧ ∃ later, (s.step w m).heard = s.heard ++ later ∧
      operations (s.step w m).run.calls =
        operations s.run.calls ++ later.filterMap (sequel b c) := by
  have hdrift (e : Deadline.Event (Except Trouble Unit)) :
      let t : Session := { s with run := s.run.advance w e }
      t.OnTrack b c ∧ ∃ later, t.heard = s.heard ++ later ∧
        operations t.run.calls = operations s.run.calls ++ later.filterMap (sequel b c) := by
    obtain ⟨hkept, hsame⟩ := h.arranges.advance (w := w) e
    exact ⟨⟨hkept, h.waits, h.settled⟩, [], by simp [heard], by simpa using hsame⟩
  have hstill : s.OnTrack b c ∧ ∃ later, s.heard = s.heard ++ later ∧
      operations s.run.calls = operations s.run.calls ++ later.filterMap (sequel b c) :=
    ⟨h, [], by simp, by simp⟩
  cases m with
  | happens x => exact hdrift _
  | delivers => exact hdrift _
  | settles reply =>
    rw [Session.step]
    split
    case h_1 call next hstage =>
      refine ⟨⟨h.arranges, ?_, ?_⟩, [], ?_, by simp⟩
      · rintro _ _ ⟨⟩
      · rintro _ _ _ ⟨⟩
        exact ⟨h.waits call next hstage reply, s.replies, rfl⟩
      · simp [heard, hstage]
    all_goals exact hstill
  | resumes =>
    rw [Session.step]
    split
    case h_1 call reply next hstage =>
      obtain ⟨hcomplies, before, hreplies⟩ := h.settled call reply next hstage
      obtain ⟨htrack, hheard, hstarts⟩ :=
        onTrack_proceed (w := w) (next reply) s hcomplies h.arranges
      refine ⟨htrack, [(call, reply)], ?_, ?_⟩
      · rw [hheard]
        simp [heard, hstage, hreplies]
      · rw [hstarts _ rfl]
        cases hsequel : sequel b c (call, reply) <;> simp [hsequel]
    all_goals exact hstill

/-- **The operations that are started are those that follow the replies with which the program went
on**, in every order of events. -/
theorem after (h : s.OnTrack b c) (moments : List Moment) :
    (s.after w moments).OnTrack b c ∧ ∃ later, (s.after w moments).heard = s.heard ++ later ∧
      operations (s.after w moments).run.calls =
        operations s.run.calls ++ later.filterMap (sequel b c) := by
  induction moments generalizing s with
  | nil => exact ⟨h, [], by simp [Session.after], by simp [Session.after]⟩
  | cons m rest ih =>
    obtain ⟨htrack, first, hfirst, hstarted⟩ := h.step (w := w) m
    obtain ⟨hend, later, hlater, hrest⟩ := ih htrack
    refine ⟨hend, first ++ later, ?_, ?_⟩
    · rw [← List.append_assoc, ← hfirst]
      exact hlater
    · rw [List.filterMap_append, ← List.append_assoc, ← hstarted]
      exact hrest

theorem of_start (w : Circumstances) (settings : Settings) (directory : String) (limit : Number)
    (b : Backend) (c : b.Config) : (ofTest w settings directory limit b c).OnTrack b c := by
  have hfresh : (fresh limit).ArrangesRelease := by
    intro call hcall
    cases hcall
  exact (onTrack_proceed _ _ (complies_check settings directory limit b c) hfresh).1

end OnTrack

/-! ### Before the first wait -/

/-- Nobody is told to stop while the program goes on, unless a call that is answered at once makes
the caller give up. -/
theorem aborted_proceed (hw : ∀ r call, (w.answer r call).cancels = false) (p : Check Unit)
    (s : Session) : (proceed w p s).run.deadline.aborted = s.run.deadline.aborted := by
  induction p generalizing s with
  | done outcome =>
    show (s.run.advance w (.settled outcome)).deadline.aborted = _
    rw [Run.deadline_advance]
    exact Deadline.aborted_settle outcome s.run.deadline
  | perform call next ih =>
    refine (ih _ (s.performed w call)).trans ?_
    rw [performed, hw]
    rfl
  | await call next ih =>
    show ((s.run.record call).advance w .suspended).deadline.aborted = _
    rw [Run.deadline_advance]
    exact Deadline.aborted_suspend s.run.deadline
  | arrange release next ih => exact ih { s with run := _, disarmed := _ }
  | look next ih => exact ih _ s
  | draw next ih => exact ih _ { s with run := _ }

/-! ### The tests -/

/-- **What a test starts after it was told to stop.**  Take any settings, limit and configuration,
anything that comes of the calls, and any order in which calls settle or never do, the program goes
on, time passes and the caller gives up.  From the moment at which a test has been told to stop, the
calls that it makes are releases and, for each reply with which it goes on, the operation that
follows it, if there is one: none after trouble, and none at all in the tests of buckets, shares and
containers.  No test is told before it waits for the first time, unless a call that is answered at
once makes the caller give up.  The calls that a test reports are those of such an order of events,
with nothing left to be done. -/
theorem operations_after_stop (w : Circumstances) (s : Settings) (directory : String)
    (limit : Number) (b : Backend) (c : b.Config) :
    (∀ moments more : List Moment,
      let x := (ofTest w s directory limit b c).after w moments
      let y := x.after w more
      x.run.deadline.aborted = true →
        (∃ later, y.heard = x.heard ++ later ∧
          operations y.run.calls = operations x.run.calls ++ later.filterMap (sequel b c)) ∧
        (b = .s3 ∨ b = .nas ∨ b = .azureBlob →
          operations y.run.calls = operations x.run.calls)) ∧
    ((∀ r call, (w.answer r call).cancels = false) →
      (ofTest w s directory limit b c).run.deadline.aborted = false) ∧
    ∃ moments, let x := (ofTest w s directory limit b c).after w moments
      (Probe.testConfig s directory limit b c false w).calls = x.run.calls ∧ x.IsComplete := by
  refine ⟨fun moments more htold => ?_, fun hw => aborted_proceed hw _ _, ?_⟩
  · have htrack := ((OnTrack.of_start w s directory limit b c).after (w := w) moments).1
    obtain ⟨-, later, hlater, hstarted⟩ := htrack.after (w := w) more
    refine ⟨⟨later, hlater, hstarted⟩, fun hb => ?_⟩
    have hnone : later.filterMap (sequel b c) = [] :=
      List.filterMap_eq_nil_iff.2 fun x _ => Probe.sequel_of_single hb x
    rw [hstarted, hnone, List.append_nil]
  · obtain ⟨moments, hcalls, hcomplete, -⟩ := exists_testConfig w s directory limit b c
    exact ⟨moments, hcalls, hcomplete⟩

/-- A bucket whose test is told to stop while it waits for the bucket, which answers all the
same. -/
theorem operations_after_stop_bucket :
    let s := Settings.defaults "key"
    let w := Circumstances.steady (some (.ok .null))
    let bucket : S3Config := ⟨"b", "", "key", "secret", "", "", false, false⟩
    let x := (ofTest w s "/data" (.integer 10) .s3 bucket).after w [.happens (.passes 10)]
    let y := x.after w [.settles (.ok .null), .resumes]
    x.run.deadline.aborted = true ∧ y.stage = .finished ∧
      operations y.run.calls = operations x.run.calls ∧
      (ofTest w s "/data" (.integer 10) .s3 bucket).run.deadline.aborted = false := by
  intro s w bucket x y
  obtain ⟨hstop, huntold, -⟩ := operations_after_stop w s "/data" (.integer 10) .s3 bucket
  have htold : x.run.deadline.aborted = true := rfl
  exact ⟨htold, rfl, (hstop _ _ htold).2 (.inl rfl), huntold fun _ _ => rfl⟩

/-- **A drive that is asked for after the test was told to stop**: the caller gives up while the
access token is waited for, and the token comes all the same. -/
theorem operations_after_stop_drive :
    let s := Settings.defaults "key"
    let w := Circumstances.steady none
    let drive : DriveConfig := ⟨"client", "secret", "\x7b\"refresh_token\":\"t\"\x7d"⟩
    let x := (ofTest w s "/data" (.integer 10) .googleDrive drive).after w [.happens .cancels]
    let y := x.after w [.settles (.ok (.object [("token", .string "access")])), .resumes]
    x.run.deadline.aborted = true ∧
      y.run.calls = x.run.calls ++ [.googleRequest Probe.driveAboutUrl (.integer 10)] ∧
      Method.isRelease (Call.googleRequest Probe.driveAboutUrl (.integer 10)).method = false := by
  intro s w drive x y
  have hparse : OAuth.Token.parse? drive.token =
      some ⟨none, some "t", none, none, none, none⟩ := by decide +kernel
  simp only [x, y, ofTest, Probe.check, Probe.checkDrive, hparse]
  exact ⟨rfl, rfl, rfl⟩

end Session

end Depository
