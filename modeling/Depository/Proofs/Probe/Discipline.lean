import Depository.Probe.Objects
import Depository.Proofs.Revealed

/-!
# What may come of a connection test

Whatever the calls of a connection test come to, and whenever its caller gives up, the test comes to
one of three ends.  A secret that is not decrypted ends it before any call.  Otherwise it succeeds,
or it fails as a connection of its backend, with the words of what ended it: the trouble of the test
of its backend, or what the deadline tells.  That trouble is one that a call came to, or an error of
the test itself, so there are words for it wherever there are for the trouble of calls.

* `Check.Comes` — what a program may come to, by recursion on it, with `Check.Comes.bind`,
  `Check.Comes.ensure` and their like;
* `Probe.check_comes` — **the test of each backend is in no trouble but that of its calls** and
  errors of its own;
* `Probe.play_own` — from there to the verdict of a run;
* `Probe.testObject_eq` — the object that is tested holds the same afterwards;
* `Probe.testWithin_disciplined` — the statement about all of it.
-/

namespace Depository

namespace Check

variable {α β : Type} {T : Trouble → Prop} {P : α → Prop} {Q : β → Prop} {c : Check α}
  {f : α → Check β}

/-- Where the trouble of calls is of a kind `T`, the program comes to a value of `P` or to trouble
of this kind. -/
def Comes (T : Trouble → Prop) (P : α → Prop) : Check α → Prop
  | done (.ok a) => P a
  | done (.error t) => T t
  | perform _ next => ∀ r, (∀ t, r = .error t → T t) → (next r).Comes T P
  | await _ next => ∀ r, (∀ t, r = .error t → T t) → (next r).Comes T P
  | arrange _ next => next.Comes T P
  | look next => ∀ b, (next b).Comes T P
  | draw next => ∀ s, (next s).Comes T P

/-! ### Rules -/

theorem comes_fail {t : Trouble} (h : T t) : (fail t : Check α).Comes T P := h

theorem Comes.bind (h : c.Comes T P) (hf : ∀ a, P a → (f a).Comes T Q) :
    (c >>= f).Comes T Q := by
  induction c with
  | done outcome =>
    cases outcome with
    | ok a => exact hf a h
    | error t => exact h
  | perform call next ih => exact fun r hr => ih r (h r hr)
  | await call next ih => exact fun r hr => ih r (h r hr)
  | arrange release next ih => exact ih h
  | look next ih => exact fun b => ih b (h b)
  | draw next ih => exact fun s => ih s (h s)

/-- A program whose outcome is looked at is never in trouble of its own. -/
theorem Comes.attempt (h : c.Comes T P) :
    c.attempt.Comes T fun r =>
      match r with
      | .ok a => P a
      | .error t => T t := by
  induction c with
  | done outcome => cases outcome <;> exact h
  | perform call next ih => exact fun r hr => ih r (h r hr)
  | await call next ih => exact fun r hr => ih r (h r hr)
  | arrange release next ih => exact ih h
  | look next ih => exact fun b => ih b (h b)
  | draw next ih => exact fun s => ih s (h s)

theorem comes_run (call : Call) : (run call).Comes T fun _ => True := by
  rintro (t | ⟨⟩) hr
  · exact hr t rfl
  · trivial

theorem comes_ask (call : Call) : (ask call).Comes T fun _ => True := by
  rintro (t | v) hr
  · exact hr t rfl
  · trivial

theorem comes_request (call : Call) : (request call).Comes T fun _ => True :=
  (comes_ask call).bind fun _ _ => trivial

/-- **A cleanup** adds no other kind of trouble. -/
theorem Comes.ensure {cleanup : Check Unit} (h : c.Comes T P)
    (hc : cleanup.Comes T fun _ => True) : (ensure c cleanup).Comes T P := by
  refine h.attempt.bind fun outcome houtcome => hc.bind fun _ _ => ?_
  cases outcome <;> exact houtcome

end Check

namespace Probe

open Check

variable {T : Trouble → Prop}

/-! ### The backends one by one -/

section Backends

theorem comes_freshId : freshId.Comes T fun _ => True := fun _ => trivial

theorem comes_whenStopped (release : Call) : (whenStopped release).Comes T fun _ => True := trivial

theorem comes_noLonger : noLonger.Comes T fun _ => True := trivial

theorem comes_unlessStopped {c : Check Unit} (h : c.Comes T fun _ => True) :
    (unlessStopped c).Comes T fun _ => True := by
  rintro (_ | _)
  · exact h
  · trivial

theorem checkLocal_comes (directory : String) : (checkLocal directory).Comes T fun _ => True := by
  refine (comes_request _).bind fun _ _ => ?_
  refine comes_freshId.bind fun id _ => ?_
  exact (comes_request _).bind fun _ _ => comes_request _

theorem checkS3_comes (c : S3Config) : (checkS3 c).Comes T fun _ => True :=
  (comes_run _).bind fun _ _ => (comes_request _).ensure (comes_run _)

theorem checkFtp_comes (limit : Number) (c : FtpConfig) :
    (checkFtp limit c).Comes T fun _ => True := by
  refine (comes_run _).bind fun _ _ => (comes_whenStopped _).bind fun _ _ => Comes.ensure ?_ ?_
  · refine (comes_request _).bind fun _ _ => ?_
    split
    · trivial
    · exact comes_request _
  · exact comes_noLonger.bind fun _ _ => comes_run _

theorem checkNas_comes (c : NasConfig) : (checkNas c).Comes T fun _ => True := by
  refine (comes_run _).bind fun _ _ => (comes_whenStopped _).bind fun _ _ => ?_
  refine (comes_request _).ensure ?_
  exact comes_noLonger.bind fun _ _ => comes_unlessStopped (comes_run _)

/-- The test of a drive with a token is in no trouble of its own but what it says of an answer
without an access token. -/
theorem checkDrive_comes_of_token (limit : Number) {c : DriveConfig} {token : OAuth.Token}
    (htoken : OAuth.Token.parse? c.token = some token)
    (hnull : T (.ofMessage
      "Cannot destructure property 'token' of '(intermediate value)' as it is null."))
    (hmissing : T (.ofMessage "unable to obtain an access token")) :
    (checkDrive limit c).Comes T fun _ => True := by
  have haccess : ∀ answer, (accessToken answer).Comes T fun _ => True := by
    intro answer
    unfold accessToken
    split
    · exact comes_fail hnull
    · split
      · trivial
      · exact comes_fail hmissing
  rw [checkDrive, htoken]
  refine (comes_run _).bind fun _ _ => (comes_run _).bind fun _ _ => ?_
  refine (comes_ask _).bind fun answer _ => (haccess answer).bind fun _ _ => ?_
  exact comes_request _

variable (hT : ∀ message, T (.ofMessage message))
include hT

theorem comes_failWith {α : Type} {P : α → Prop} (message : String) :
    (failWith message : Check α).Comes T P := comes_fail (hT message)

theorem checkAzure_comes (c : AzureConfig) : (checkAzure c).Comes T fun _ => True := by
  have hservice : (azureService c).Comes T fun _ => True := by
    rw [azureService]
    split <;> exact comes_run _
  refine hservice.bind fun _ _ => (comes_run _).bind fun _ _ => (comes_ask _).bind fun found _ => ?_
  split
  · trivial
  · exact comes_failWith hT _

theorem checkSftp_comes (limit : Number) (c : SftpConfig) :
    (checkSftp limit c).Comes T fun _ => True := by
  have hdirectory : (sftpDirectory c.path).Comes T fun _ => True := by
    rw [sftpDirectory]
    split
    · trivial
    · refine (comes_ask _).bind fun found _ => ?_
      split
      · exact comes_failWith hT _
      · trivial
  refine (comes_whenStopped _).bind fun _ _ => (comes_request _).attempt.bind ?_
  rintro (t | _) hopened
  · exact comes_noLonger.bind fun _ _ => comes_fail hopened
  · refine hdirectory.ensure ?_
    exact comes_noLonger.bind fun _ _ => comes_unlessStopped (comes_request _)

theorem checkDrive_comes (limit : Number) (c : DriveConfig) :
    (checkDrive limit c).Comes T fun _ => True := by
  cases htoken : OAuth.Token.parse? c.token with
  | none =>
    rw [checkDrive, htoken]
    exact comes_failWith hT _
  | some token => exact checkDrive_comes_of_token limit htoken (hT _) (hT _)

theorem listRemote_comes (program file target : String) (limit : Number) :
    (listRemote program file target limit).Comes T fun _ => True := by
  refine (comes_request _).attempt.bind ?_
  -- the trouble of the program is told as an error
  rintro (t | _) _
  · exact comes_failWith hT _
  · trivial

theorem checkRclone_comes (program : String) (limit : Number) (c : RcloneConfig) :
    (checkRclone program limit c).Comes T fun _ => True := by
  have hremote : (firstRemote c.content).Comes T fun _ => True := by
    rw [firstRemote]
    split
    · exact comes_failWith hT _
    · split
      · exact comes_failWith hT _
      · exact comes_failWith hT _
      · trivial
  refine hremote.bind fun remote _ => (comes_ask _).bind fun directory _ => ?_
  refine Comes.ensure ?_ (comes_request _)
  rw [listIn]
  split
  · exact comes_failWith hT _
  · exact (comes_request _).bind fun _ _ => listRemote_comes hT _ _ _ _

/-- **The test of each backend is in no trouble but that of its calls** and errors of its own. -/
theorem check_comes (s : Settings) (directory : String) (limit : Number) (b : Backend)
    (c : b.Config) : (check s directory limit b c).Comes T fun _ => True := by
  cases b with
  | localDisk => exact checkLocal_comes directory
  | s3 => exact checkS3_comes c
  | nas => exact checkNas_comes c
  | azureBlob => exact checkAzure_comes hT c
  | ftp => exact checkFtp_comes limit c
  | sftp => exact checkSftp_comes hT limit c
  | googleDrive => exact checkDrive_comes hT limit c
  | rclone => exact checkRclone_comes hT s.rcloneBinary limit c

end Backends

end Probe

/-! ### Runs -/

/-- Only what ends work gives it a verdict of its own. -/
theorem Deadline.own_of_step {α : Type} {d : Deadline α} {e : Deadline.Event α} {outcome : α}
    (h : (d.step e).verdict? = some (.own outcome)) :
    d.verdict? = some (.own outcome) ∨ e = .settled outcome ∨ e = .threw outcome := by
  obtain ⟨limit, clock, aborted, phase⟩ := d
  cases e with
  | settled x => cases phase <;> simp_all [step, settle, verdict?]
  | threw x => cases phase <;> simp_all [step, throw, verdict?]
  | suspended =>
    cases phase with
    | starting pending => cases pending <;> simp [step, suspend, verdict?] at h
    | _ => exact .inl h
  | cancelled => cases phase <;> simp_all [step, interrupt, verdict?]
  | passed milliseconds =>
    cases phase with
    | running =>
      simp only [step, pass, interrupt] at h
      split_ifs at h <;> simp [verdict?] at h
    | _ => exact .inl h
  | delivered => cases phase <;> simp_all [step, deliver, verdict?]

/-- The trouble is what a call came to in these circumstances, or an error of the test itself. -/
inductive Circumstances.Causes (w : Circumstances) : Trouble → Prop
  | answered {r : Run} {call : Call} {t : Trouble} (h : (w.answer r call).outcome = .error t) :
    w.Causes t
  | awaited {r : Run} {call : Call} {t : Trouble}
    (h : (w.waiting r call).reply = some (.error t)) : w.Causes t
  | raised (message : String) : w.Causes (.ofMessage message)

/-- What calls come to in these circumstances is no trouble but of the kind `T`. -/
structure Circumstances.Meets (w : Circumstances) (T : Trouble → Prop) : Prop where
  answered : ∀ r call t, (w.answer r call).outcome = .error t → T t
  awaited : ∀ r call t, (w.waiting r call).reply = some (.error t) → T t

theorem Circumstances.meets_causes (w : Circumstances) : w.Meets w.Causes :=
  ⟨fun _ _ _ h => .answered h, fun _ _ _ h => .awaited h⟩

namespace Run

variable {w : Circumstances} {T : Trouble → Prop} {r : Run}

/-- If the run has a verdict of its own by now that is trouble, the trouble is of the kind `T`. -/
def IsCaused (T : Trouble → Prop) (r : Run) : Prop :=
  ∀ t, r.deadline.verdict? = some (.own (.error t)) → T t

theorem isCaused_start {limit : Number} {cancelled : Bool} {d : Deadline (Except Trouble Unit)}
    (h : Deadline.start? limit cancelled = some d) : (start d).IsCaused T := by
  unfold Deadline.start? at h
  split at h
  · cases h
  · obtain rfl := Option.some.inj h
    nofun

theorem IsCaused.advance (h : r.IsCaused T) {e : Deadline.Event (Except Trouble Unit)}
    (he : ∀ t, e = .settled (.error t) ∨ e = .threw (.error t) → T t) :
    (r.advance w e).IsCaused T := by
  intro t ht
  rw [deadline_advance] at ht
  rcases Deadline.own_of_step ht with hown | hends
  · exact h t hown
  · exact he t hends

theorem IsCaused.happen (h : r.IsCaused T) (happenings : List Happening) :
    (r.happen w happenings).IsCaused T := by
  unfold Run.happen
  induction happenings generalizing r with
  | nil => exact h
  | cons x rest ih =>
    refine ih (h.advance fun t ht => ?_)
    cases x <;> simp [eventOf] at ht

end Run

namespace Probe

variable {w : Circumstances} {T : Trouble → Prop}

/-- **The verdict of a run** is in no trouble but that of its calls and errors of its program. -/
theorem play_own (hw : w.Meets T) {c : Check Unit} (hc : c.Comes T fun _ => True) {r : Run}
    (hr : r.IsCaused T) : (play w c r).IsCaused T := by
  induction c generalizing r with
  | done outcome =>
    refine hr.advance fun t ht => ?_
    obtain rfl : outcome = .error t := by simpa using ht
    exact hc
  | perform call next ih =>
    refine ih _ (hc _ fun t ht => hw.answered _ _ t ht) ?_
    split
    · exact Run.IsCaused.advance (r := r.record call) hr (by simp)
    · exact hr
  | await call next ih =>
    have hwaited : (((r.record call).advance w .suspended).happen w
        (w.waiting r call).happenings).IsCaused T :=
      (Run.IsCaused.advance (r := r.record call) hr (by simp)).happen _
    simp only [play]
    split
    · rename_i reply hreply
      exact ih _ (hc _ fun t ht => hw.awaited _ _ t (hreply.trans (congrArg some ht))) hwaited
    · exact hwaited.advance (by simp)
  | arrange release next ih => exact ih hc hr
  | look next ih => exact ih _ (hc _) hr
  | draw next ih => exact ih _ (hc _) hr

end Probe

/-! ### Secrets and objects -/

/-- The text is decrypted under the id of a record; an empty id is none. -/
def Field.Opens (key : String) (entity : Option String) (value : String) : Prop :=
  ∃ id text, entity = some id ∧ id ≠ "" ∧ Field.decrypt key id value = .ok text

/-- A secret is revealed if it is plain, or decrypted under the id. -/
theorem Field.reveal_eq_ok_iff {key : String} {entity : Option String} {value : String} :
    (∃ text, Field.reveal (.ofText key) (entity.map .string) value = .ok text) ↔
      (Field.isMarked value = true → Field.Opens key entity value) := by
  rw [Field.reveal]
  by_cases hm : Field.isMarked value = true
  · simp only [hm, Bool.not_true, Bool.false_eq_true, if_false, true_implies]
    cases entity with
    | none => simp [Field.Opens, Cell.isTruthy]
    | some id =>
      have hcell : (some id).map Json.string = Cell.ofText id := rfl
      by_cases hid : id = ""
      · simp [Field.Opens, Cell.isTruthy, Json.isTruthy, hid]
      · have howned : (Cell.ofText id).isTruthy = true := Cell.isTruthy_ofText.2 hid
        rw [hcell, if_pos howned, Field.decryptFor_ofText]
        simp [Field.Opens, hid]
  · simp [hm]

/-- Without the id of a record nothing else is found than that it is missing. -/
theorem Secret.unowned_of_revealAll {C : Type} {key : String} {fields : List (Secret C)} {c : C}
    {fault : Field.DecryptionFault} (h : revealAll key none fields c = .error fault) :
    fault = .unowned := by
  induction fields generalizing c with
  | nil => cases h
  | cons f fields ih =>
    rw [revealAll] at h
    cases hf : Field.reveal (.ofText key) none (f.get c) with
    | ok text =>
      rw [hf] at h
      exact ih h
    | error e =>
      rw [hf] at h
      obtain rfl := Except.error.inj h
      rw [Field.reveal] at hf
      split at hf
      · cases hf
      · exact (Except.error.inj hf).symm

namespace Objects

variable {C : Type} (key : String) (owner : Cell)

/-- Decryption in place comes to what decryption comes to, and touches no other object. -/
theorem revealAt_eq (n : Nat) (fields : List (Secret C)) (o : Objects C) :
    (o.revealAt key owner n fields).1 =
        (Secret.revealAll key owner fields (o.get n)).map (fun _ => ()) ∧
      (∀ c, Secret.revealAll key owner fields (o.get n) = .ok c →
        (o.revealAt key owner n fields).2.get n = c) ∧
      ∀ k ≠ n, (o.revealAt key owner n fields).2.get k = o.get k := by
  induction fields generalizing o with
  | nil => exact ⟨rfl, fun _ h => Except.ok.inj h, fun _ _ => rfl⟩
  | cons f fields ih =>
    rw [revealAt, Secret.revealAll]
    cases Field.reveal (.ofText key) owner (f.get (o.get n)) with
    | error fault =>
      refine ⟨rfl, fun c h => ?_, fun _ _ => rfl⟩
      cases h
    | ok text =>
      have hput : (o.put n (f.set text (o.get n))).get n = f.set text (o.get n) := if_pos rfl
      obtain ⟨hout, hget, hother⟩ := ih (o.put n (f.set text (o.get n)))
      rw [hput] at hout hget
      exact ⟨hout, hget, fun k hk => (hother k hk).trans (if_neg hk)⟩

end Objects

namespace Probe

variable (s : Settings) (directory : String) (limit : Number) (owner : Cell) (cancelled : Bool)
  (w : Circumstances)

/-- **The test of an object** is that of what it holds, and every object holds the same
afterwards. -/
theorem testObject_eq (b : Backend) (n : Nat) (o : Objects b.Config) :
    (testObject s directory limit owner b n cancelled w o).1 =
        testWithin s directory limit owner ⟨b, o.get n⟩ cancelled w ∧
      ∀ k < o.next, (testObject s directory limit owner b n cancelled w o).2.get k = o.get k := by
  have hcopy : (o.copy n).get o.next = o.get n := if_pos rfl
  obtain ⟨hout, hget, hother⟩ := (o.copy n).revealAt_eq s.encryptionKey owner o.next b.secrets
  rw [hcopy] at hout hget
  have hkept : ∀ k < o.next,
      ((o.copy n).revealAt s.encryptionKey owner o.next b.secrets).2.get k = o.get k := by
    intro k hk
    exact (hother k (Nat.ne_of_lt hk)).trans (if_neg (Nat.ne_of_lt hk))
  rw [testObject, testWithin, Variant.reveal]
  rcases hrun : (o.copy n).revealAt s.encryptionKey owner o.next b.secrets with ⟨out, after⟩
  rw [hrun] at hout hget hkept
  cases hreveal : Secret.revealAll s.encryptionKey owner b.secrets (o.get n) with
  | error fault =>
    rw [hreveal] at hout
    obtain rfl : out = .error fault := hout
    exact ⟨rfl, hkept⟩
  | ok plain =>
    rw [hreveal] at hout
    obtain rfl : out = .ok () := hout
    refine ⟨?_, hkept⟩
    show testConfig s directory limit b (after.get o.next) cancelled w = _
    rw [hget plain hreveal]
    rfl

/-! ### The outcome of a test -/

/-- What ends the test of a configuration in clear: the verdict of its run, or that its caller gave
up before. -/
def ending? (s : Settings) (directory : String) (limit : Number) (b : Backend) (c : b.Config)
    (cancelled : Bool) (w : Circumstances) : Option (Verdict (Except Trouble Unit)) :=
  match Deadline.start? limit cancelled with
  | none => some (.interrupted .cancellation)
  | some d => (play w (check s directory limit b c) (Run.start d)).deadline.verdict?

/-- The words of what ended a test: of its own trouble, or of the deadline. -/
def Ending (limit : Number) (w : Circumstances) (text : String) :
    Verdict (Except Trouble Unit) → Prop
  | .own (.ok ()) => False
  | .own (.error t) => w.Causes t ∧ t.text? = some text
  | .interrupted cause => text = Deadline.message limit.text cause

end Probe

/-- There are words for the trouble that calls come to: an error has a message, and a value has a
plain text. -/
structure Circumstances.CanBeTold (w : Circumstances) : Prop where
  answer : ∀ r call t, (w.answer r call).outcome = .error t → t.text?.isSome = true
  waiting : ∀ r call t, (w.waiting r call).reply = some (.error t) → t.text?.isSome = true

theorem Circumstances.CanBeTold.text {w : Circumstances} (hw : w.CanBeTold) {t : Trouble}
    (h : w.Causes t) : ∃ text, t.text? = some text := by
  refine Option.isSome_iff_exists.1 ?_
  cases h with
  | answered h => exact hw.answer _ _ _ h
  | awaited h => exact hw.waiting _ _ _ h
  | raised message => rfl

namespace Probe

variable {w : Circumstances}

/-- The test of a configuration in clear succeeds, or it fails with the words of what ended it. -/
theorem testConfig_ends (s : Settings) (directory : String) (limit : Number) (b : Backend)
    (c : b.Config) (cancelled : Bool) (hw : w.CanBeTold) :
    ∃ verdict, ending? s directory limit b c cancelled w = some verdict ∧
      (verdict = .own (.ok ()) ∧
          (testConfig s directory limit b c cancelled w).outcome = .ok () ∨
        ∃ text, Ending limit w text verdict ∧
          (testConfig s directory limit b c cancelled w).outcome =
            .error (.connection b text)) := by
  rw [ending?, testConfig]
  cases hstart : Deadline.start? (α := Except Trouble Unit) limit cancelled with
  | none => exact ⟨_, rfl, .inr ⟨_, rfl, rfl⟩⟩
  | some d =>
    have hcaused := play_own w.meets_causes
      (check_comes (fun m => .raised m) s directory limit b c) (Run.isCaused_start hstart)
    -- every run comes to a verdict, so that none has to be made up
    obtain ⟨v, hv⟩ := Option.isSome_iff_exists.1
      (play_decided w (check s directory limit b c) (Run.start d))
    refine ⟨v, hv, ?_⟩
    dsimp only
    rw [verdict, hv]
    match v with
    | .own (.ok ()) => exact .inl ⟨rfl, rfl⟩
    | .own (.error t) =>
      have hcause : w.Causes t := hcaused t hv
      obtain ⟨text, htext⟩ := hw.text hcause
      refine .inr ⟨text, ⟨hcause, htext⟩, ?_⟩
      simp only [Option.getD_some, finding, htext, Option.elim_some]
      rfl
    | .interrupted cause => exact .inr ⟨_, rfl, rfl⟩

/-- A caller who gave up before has nothing called. -/
theorem calls_of_cancelled (s : Settings) (directory : String) (limit : Number) (owner : Cell)
    (v : Variant) (w : Circumstances) :
    (testWithin s directory limit owner v true w).calls = [] := by
  rw [testWithin]
  cases v.reveal s.encryptionKey owner <;> rfl

/-- **What may come of a connection test.**  Take a variant of any backend, an id of its record or
none, any limit, and circumstances in which there are words for all trouble.  If a stored secret is
not decrypted under the id, the test fails because of that and calls nothing.  Otherwise it
succeeds, or it fails as a connection of its backend, with the words of what ended it.  If the
caller gave up before, nothing is called.  And whoever has the variant in an object has it there
afterwards, as it was, and so it is with every other object. -/
theorem testWithin_disciplined (s : Settings) (directory : String) (limit : Number)
    (entity : Option String) (v : Variant) (cancelled : Bool) (hw : w.CanBeTold) :
    let r := testWithin s directory limit (entity.map .string) v cancelled w
    ((∃ f ∈ v.backend.secrets, Field.isMarked (f.get v.config) = true ∧
        ¬Field.Opens s.encryptionKey entity (f.get v.config)) →
      r.outcome = .error .decryption ∧ r.calls = []) ∧
    ((∀ f ∈ v.backend.secrets, Field.isMarked (f.get v.config) = true →
        Field.Opens s.encryptionKey entity (f.get v.config)) →
      ∃ plain verdict, v.reveal s.encryptionKey (entity.map .string) = .ok ⟨v.backend, plain⟩ ∧
        ending? s directory limit v.backend plain cancelled w = some verdict ∧
        (verdict = .own (.ok ()) ∧ r.outcome = .ok () ∨
          ∃ text e, Ending limit w text verdict ∧ r.outcome = .error e ∧
            e = .connection v.backend text ∧
            e.message = v.backend.label ++ " connection failed: " ++ text)) ∧
    (cancelled = true → r.calls = []) ∧
    ∀ (o : Objects v.backend.Config) (n : Nat), n < o.next → o.get n = v.config →
      let tested := testObject s directory limit (entity.map .string) v.backend n cancelled w o
      tested.1 = r ∧ tested.2.get n = v.config ∧ ∀ k < o.next, tested.2.get k = o.get k := by
  obtain ⟨b, c⟩ := v
  intro r
  refine ⟨?undecrypted, ?decrypted, ?cancelled, ?object⟩
  case undecrypted =>
    rintro ⟨f, hf, hmarked, hclosed⟩
    have hfault : ∃ fault, Variant.reveal s.encryptionKey (entity.map .string) ⟨b, c⟩ =
        .error fault := by
      rw [Variant.reveal]
      cases hreveal : Secret.revealAll s.encryptionKey (entity.map .string) b.secrets c with
      | error fault => exact ⟨fault, rfl⟩
      | ok plain =>
        have htext := Secret.get_revealAll b.secrets_independent hreveal f hf
        exact absurd (Field.reveal_eq_ok_iff.1 ⟨_, htext⟩ hmarked) hclosed
    obtain ⟨fault, hfault⟩ := hfault
    have hr : r = unrevealed (entity.map .string) fault := by
      show testWithin _ _ _ _ _ _ _ = _
      rw [testWithin, hfault]
    rw [hr]
    refine ⟨congrArg Except.error ?_, rfl⟩
    rw [Failure.ofDecryption, if_pos]
    cases entity with
    | none =>
      rw [Variant.reveal] at hfault
      cases hreveal : Secret.revealAll s.encryptionKey none b.secrets c with
      | ok plain => simp [hreveal, Except.map] at hfault
      | error e =>
        simp only [Option.map_none, hreveal, Except.map, Except.error.injEq] at hfault
        rw [← hfault, Secret.unowned_of_revealAll hreveal]
        rfl
    | some id => simp [Cell.plainText?, Json.plainText?]
  case decrypted =>
    intro hopen
    obtain ⟨plain, hplain⟩ := Secret.exists_revealAll b.secrets_independent
      fun f hf => Field.reveal_eq_ok_iff.2 (hopen f hf)
    have hreveal : Variant.reveal s.encryptionKey (entity.map .string) ⟨b, c⟩ =
        .ok ⟨b, plain⟩ := by
      rw [Variant.reveal, hplain]
      rfl
    have hr : r = testConfig s directory limit b plain cancelled w := by
      show testWithin _ _ _ _ _ _ _ = _
      rw [testWithin, hreveal]
    obtain ⟨verdict, hverdict, hend⟩ := testConfig_ends s directory limit b plain cancelled hw
    rw [hr]
    refine ⟨plain, verdict, hreveal, hverdict, hend.imp_right ?_⟩
    rintro ⟨text, hending, hout⟩
    exact ⟨text, _, hending, hout, rfl, rfl⟩
  case cancelled =>
    rintro rfl
    exact calls_of_cancelled ..
  case object =>
    intro o n hn hc
    obtain ⟨hreport, hkept⟩ :=
      testObject_eq s directory limit (entity.map .string) cancelled w b n o
    rw [hc] at hreport
    exact ⟨hreport, (hkept n hn).trans hc, hkept⟩

/-- A bucket about which a value is thrown that is no error, and one with a secret that nobody can
decrypt. -/
theorem testWithin_disciplined_buckets :
    let s := Settings.defaults "key"
    let w : Circumstances :=
      { answer := fun _ _ => ⟨.ok (), false⟩
        waiting := fun _ _ => ⟨[.passes 5], some (.error (.value (.number (.integer 42))))⟩
        releaseTrouble := fun _ _ => none, freshId := fun _ => "1" }
    let bucket (secretKey : String) : Variant :=
      ⟨.s3, ⟨"b", "", "a", secretKey, "", "", false, false⟩⟩
    let tested (secretKey : String) :=
      testWithin s "/data" (.integer 10) ((none : Option String).map .string) (bucket secretKey)
        false w
    (∃ text e, (tested "plain").outcome = .error e ∧
      e.message = "S3 connection failed: " ++ text ∧ e = .connection .s3 "42") ∧
      (tested "enc:").outcome = .error .decryption ∧ (tested "enc:").calls = [] := by
  intro s w bucket tested
  have hw : w.CanBeTold := by
    refine ⟨fun r call t h => ?_, fun r call t h => ?_⟩
    · have hnone : Except.ok () = (.error t : Except Trouble Unit) := h
      cases hnone
    · have hvalue : some (Except.error (Trouble.value (.number (.integer 42)))) =
          some (.error t : Except Trouble Json) := h
      obtain rfl := Except.error.inj (Option.some.inj hvalue)
      rfl
  obtain ⟨-, hplain, -, -⟩ := testWithin_disciplined s "/data" (.integer 10) none
    (bucket "plain") false hw
  obtain ⟨hsealed, -, -, -⟩ := testWithin_disciplined s "/data" (.integer 10) none
    (bucket "enc:") false hw
  have hclear : ∀ f ∈ Backend.s3.secrets,
      Field.isMarked (f.get (bucket "plain").config) = false := by
    simp only [Backend.secrets, List.forall_mem_cons]
    decide
  have hmarked : ∃ f ∈ Backend.s3.secrets,
      Field.isMarked (f.get (bucket "enc:").config) = true ∧
        ¬Field.Opens s.encryptionKey none (f.get (bucket "enc:").config) := by
    refine ⟨_, List.mem_cons_of_mem _ (List.mem_cons_self ..), by decide, ?_⟩
    rintro ⟨id, text, hid, -⟩
    cases hid
  refine ⟨?_, hsealed hmarked⟩
  have hout : (tested "plain").outcome = .error (.connection .s3 "42") := by decide +kernel
  obtain ⟨plain, verdict, -, -, hsuccess | ⟨text, e, -, he, -, hmessage⟩⟩ :=
    hplain fun f hf hm => absurd ((hclear f hf).symm.trans hm) Bool.false_ne_true
  · cases hout.symm.trans hsuccess.2
  · exact ⟨text, e, he, hmessage, Except.error.inj (he.symm.trans hout)⟩

end Probe

end Depository
