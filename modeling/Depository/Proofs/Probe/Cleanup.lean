import Depository.Proofs.Probe.Completion
import Depository.Proofs.Probe.Course

/-!
# What is acquired is released

Three tests acquire something that they have to release: a client of an S3 service, a client of an
FTP server, and a directory for the configuration of a program, in which secrets stand in clear.
They release it at their end, whatever came of the calls in between, and they come to their end also
when the caller was told long before that the time is over.

* `Course.obeys_lookS3`, `Course.obeys_closeFtp`, `Course.obeys_checkRclone` — what each of the
  tests keeps on its course;
* `Course.Working` — the directory is there, and all that was called has settled;
* `Session.acquired_released` — **what is acquired is released**.
-/

namespace Depository

open Check (Leads ensure request noLonger whenStopped obeys_ensure obeys_bind obeys_attempt)
open Course (Ends)

namespace Course

open Check (run)

variable {c : Course} {d : Json} {call : Call}

/-! ### S3 -/

/-- A bucket is looked at, and the client is destroyed. -/
def lookS3 (bucket : String) : Check Unit := ensure (request (.s3Head bucket)) (run .s3Destroy)

theorem obeys_lookS3 (bucket : String) (hfree : c.release = none)
    (hnone : Method.s3Destroy.times c.calls = 0) :
    (lookS3 bucket).Obeys (law fun d => Method.s3Destroy.times d.calls = 0)
      (Ends fun d => Method.s3Destroy.times d.calls = 1) c := by
  have hlook : Method.s3Destroy.times (c.record (.s3Head bucket)).calls = 0 :=
    (Method.times_concat_of_ne (by simp [Call.method]) _).trans hnone
  rw [lookS3, obeys_ensure, obeys_request_of_free hfree]
  refine ⟨hlook, fun reply => ⟨hlook, ?_⟩⟩
  refine (obeys_run_of_free (by exact hfree)).2 fun _ => ⟨hfree, ?_⟩
  exact (Method.times_concat_of_eq (by rfl) _).trans (congrArg Nat.succ hlook)

/-! ### FTP -/

/-- What the test of an FTP server does with its client. -/
def closeFtp (body : Check Unit) : Check Unit := do
  whenStopped .ftpClose
  ensure body
    (do
      noLonger
      run .ftpClose)

/-- Whatever is done with the client, the last call closes it. -/
theorem obeys_closeFtp (body : Check Unit) (c : Course) :
    (closeFtp body).Obeys (law fun _ => True)
      (Ends fun d => ∃ before, d.calls = before ++ [.ftpClose]) c := by
  intro arranged _
  refine (obeys_ensure (L := law _)).2
    (obeys_trivial (fun outcome d released hreleased => ?_) body _)
  obtain rfl : released = none := by simpa using hreleased
  exact (obeys_run_of_free rfl).2 fun _ => ⟨rfl, d.calls, rfl⟩

/-! ### Rclone -/

/-- The call that makes a work directory. -/
def makesDirectory : Call := .makeWorkDirectory Probe.workStem

/-- The directory is still there, or it was removed when everything else had settled. -/
inductive Removal (d : Json) (c : Course) : Prop
  | pending (unmade : Method.remove.times c.calls = 0)
  | made (before : List Call) (calls : c.calls = before ++ [.remove (some d) true])
    (alone : Method.remove.times before = 0)
    (settled : ∀ call ∈ before, ∃ reply, (call, reply) ∈ c.replies)

/-- Nothing is removed but a directory that was made. -/
structure Tidies (c : Course) : Prop where
  spares : (∀ d, (makesDirectory, .ok d) ∉ c.replies) → Method.remove.times c.calls = 0
  removes : ∀ d, (makesDirectory, .ok d) ∈ c.replies → c.Removal d

/-- A directory that was made has been removed. -/
structure Tidied (c : Course) : Prop extends c.Tidies where
  removed : ∀ d, (makesDirectory, .ok d) ∈ c.replies → Method.remove.times c.calls = 1

/-- The directory was made, and all that was called so far has settled. -/
structure Working (d : Json) (c : Course) : Prop where
  free : c.release = none
  directory : ∀ e, (makesDirectory, .ok e) ∈ c.replies ↔ e = d
  unmade : Method.remove.times c.calls = 0
  settled : ∀ call ∈ c.calls, ∃ reply, (call, reply) ∈ c.replies

theorem tidies_of_unmade (h : Method.remove.times c.calls = 0) : c.Tidies :=
  ⟨fun _ => h, fun _ _ => .pending h⟩

theorem Removal.times_le_one (h : c.Removal d) : Method.remove.times c.calls ≤ 1 := by
  cases h with
  | pending unmade => omega
  | made before calls alone _ =>
    have hmade : Method.remove.times c.calls = Method.remove.times before + 1 :=
      calls ▸ Method.times_concat_of_eq (by rfl) before
    omega

/-- A removal is of the directory and comes last, when everything else has settled. -/
theorem Removal.of_split (h : c.Removal d) {before after : List Call}
    (hcalls : c.calls = before ++ call :: after) (hcall : call.method = .remove) :
    call = .remove (some d) true ∧ after = [] ∧
      ∀ other ∈ before, ∃ reply, (other, reply) ∈ c.replies := by
  have hmem {calls : List Call} (hin : call ∈ calls) : Method.remove.times calls ≠ 0 :=
    fun hzero => List.countP_eq_zero.1 hzero call hin (decide_eq_true hcall)
  cases h with
  | pending unmade => exact absurd unmade (hmem (by simp [hcalls]))
  | made earlier calls alone settled =>
    rcases List.eq_nil_or_concat after with rfl | ⟨rest, last, rfl⟩
    · obtain ⟨rfl, hlast⟩ := List.append_inj' (hcalls.symm.trans calls) rfl
      exact ⟨List.singleton_inj.1 hlast, rfl, settled⟩
    · -- a removal before the last call would be one of those that were made earlier
      have hsplit : before ++ call :: rest ++ [last] = earlier ++ [.remove (some d) true] := by
        rw [← calls, hcalls]
        simp
      obtain ⟨rfl, -⟩ := List.append_inj' hsplit rfl
      exact absurd alone (hmem (by simp))

namespace Working

/-- Another call is made and settles. -/
theorem settle (h : c.Working d) (hremove : call.method ≠ .remove)
    (hmake : call.method ≠ .makeWorkDirectory) (reply : Except Trouble Json) :
    ((c.record call).hear call reply).Working d where
  free := h.free
  directory e := by
    have hne : call ≠ makesDirectory := fun heq => hmake (heq ▸ rfl)
    simp [hear, record, h.directory, hne.symm]
  unmade := (Method.times_concat_of_ne hremove _).trans h.unmade
  settled other hother := by
    rcases List.mem_append.1 hother with hold | hnew
    · obtain ⟨r, hr⟩ := h.settled other hold
      exact ⟨r, List.mem_append_left _ hr⟩
    · obtain rfl := List.mem_singleton.1 hnew
      exact ⟨reply, List.mem_append_right _ (List.mem_singleton_self _)⟩

theorem obeys_request (h : c.Working d) (hremove : call.method ≠ .remove)
    (hmake : call.method ≠ .makeWorkDirectory) {K : Except Trouble Unit → Course → Prop}
    (hK : ∀ r e, e.Working d → K r e) : (request call).Obeys (law Tidies) K c := by
  have hcalled : Method.remove.times (c.record call).calls = 0 :=
    (Method.times_concat_of_ne hremove _).trans h.unmade
  refine (obeys_request_of_free h.free).2 ⟨tidies_of_unmade hcalled, fun reply => ?_⟩
  exact ⟨tidies_of_unmade hcalled, hK _ _ (h.settle hremove hmake reply)⟩

/-- Whatever comes of writing the configuration and of the program, the directory is there and
everything has settled. -/
theorem obeys_listIn (h : c.Working d) (program remote : String) (timeout : Number)
    (config : RcloneConfig) {K : Except Trouble Unit → Course → Prop}
    (hK : ∀ r e, e.Working d → K r e) :
    (Probe.listIn (some d) program remote timeout config).Obeys (law Tidies) K c := by
  rw [Probe.listIn]
  split
  · exact hK _ c h
  rw [obeys_bind]
  refine h.obeys_request (by simp [Call.method]) (by simp [Call.method]) fun written e he => ?_
  cases written with
  | error t => exact hK _ e he
  | ok _ =>
    rw [Leads, Probe.listRemote, obeys_bind, obeys_attempt]
    refine he.obeys_request (by simp [Call.method]) (by simp [Call.method]) fun listed f hf => ?_
    cases listed with
    | error t => exact hK _ f hf
    | ok _ => exact hK _ f hf

/-- The directory is removed. -/
theorem obeys_remove (h : c.Working d) {K : Except Trouble Unit → Course → Prop}
    (hK : ∀ r e, Ends Tidied r e → K r e) :
    (request (.remove (some d) true)).Obeys (law Tidies) K c := by
  have hmem {e : Json} {reply : Except Trouble Json} :
      (makesDirectory, .ok e) ∈ c.replies ++ [(.remove (some d) true, reply)] ↔ e = d := by
    simp [makesDirectory, ← h.directory]
  have hcalled : (c.record (.remove (some d) true)).Tidies := by
    refine ⟨fun hnone => absurd ((h.directory d).2 rfl) (hnone d), fun e he => ?_⟩
    obtain rfl := (h.directory e).1 he
    exact .made c.calls rfl h.unmade h.settled
  refine (obeys_request_of_free h.free).2 ⟨hcalled, fun reply => ?_⟩
  have htidies :
      ((c.record (.remove (some d) true)).hear (.remove (some d) true) reply).Tidies := by
    refine ⟨fun hnone => absurd (hmem.2 rfl) (hnone d), fun e he => ?_⟩
    obtain rfl := hmem.1 he
    refine .made c.calls rfl h.unmade fun other hother => ?_
    obtain ⟨r, hr⟩ := h.settled other hother
    exact ⟨r, List.mem_append_left _ hr⟩
  refine ⟨htidies, hK _ _ ⟨h.free, htidies, fun _ _ => ?_⟩⟩
  exact (Method.times_concat_of_eq (by rfl) _).trans (congrArg Nat.succ h.unmade)

end Working

/-- The test makes a directory and removes it, whatever happens in between. -/
theorem obeys_checkRclone (program : String) (timeout : Number) (config : RcloneConfig) :
    (Probe.checkRclone program timeout config).Obeys (law Tidies) (Ends Tidied) .empty := by
  have hempty : Ends Tidied (.ok ()) empty :=
    ⟨rfl, tidies_of_unmade rfl, fun _ hd => absurd hd (by simp [empty])⟩
  rw [Probe.checkRclone, obeys_bind]
  obtain ⟨outcome, hfirst⟩ : ∃ outcome, Probe.firstRemote config.content = .done outcome := by
    unfold Probe.firstRemote
    split
    · exact ⟨_, rfl⟩
    · split <;> exact ⟨_, rfl⟩
  rw [hfirst]
  cases outcome with
  | error t => exact hempty
  | ok remote =>
    refine obeys_bind.2 fun e he => ?_
    obtain rfl := (drifts_of_free (c := empty.record makesDirectory) rfl).1 he
    refine ⟨tidies_of_unmade rfl, fun made => ⟨tidies_of_unmade rfl, ?_⟩⟩
    cases made with
    | error t =>
      refine ⟨rfl, tidies_of_unmade rfl, fun d hd => ?_⟩
      simp [hear, record, empty] at hd
    | ok d =>
      refine obeys_ensure.2 (Working.obeys_listIn (d := d) ?_ program remote timeout config
        fun _ e he => he.obeys_remove fun _ f hf => hf)
      refine ⟨rfl, fun e => ?_, rfl, fun call hcall => ?_⟩
      · simp [hear, record, empty, eq_comm, makesDirectory]
      · obtain rfl := List.mem_singleton.1 hcall
        exact ⟨.ok d, List.mem_singleton_self _⟩

end Course

namespace Session

open Course (makesDirectory)

variable {w : Circumstances} {I K : Course → Prop} {limit : Number} {call : Call}
  {f : Unit → Check Unit}

/-! ### Clients that are made first -/

/-- A program whose client was made goes on with it. -/
theorem follows_made (hmade : (w.answer (fresh limit) call).outcome = .ok ())
    (h : ∀ d, (Course.empty.record call).Drifts d → (f ()).Obeys (Course.law I) (Ends K) d) :
    (start w (Check.run call >>= f) (fresh limit)).Follows I K := by
  have hstart : start w (Check.run call >>= f) (fresh limit) =
      proceed w (f ()) ((unstarted limit).performed w call) := by
    show proceed w ((Check.done (w.answer (fresh limit) call).outcome).bind f) _ = _
    rw [hmade]
    rfl
  rw [hstart]
  exact follows_proceed _ _ (h _ (drifts_performed w (unstarted limit) call))

/-- A program whose client was not made is over. -/
theorem follows_unmade {t : Trouble} (hfailed : (w.answer (fresh limit) call).outcome = .error t)
    (h : K (Course.empty.record call)) :
    (start w (Check.run call >>= f) (fresh limit)).Follows I K := by
  have hstart : start w (Check.run call >>= f) (fresh limit) =
      proceed w (.done (.error t)) ((unstarted limit).performed w call) := by
    show proceed w ((Check.done (w.answer (fresh limit) call).outcome).bind f) _ = _
    rw [hfailed]
    rfl
  have hsame := (Course.drifts_of_free (c := Course.empty.record call) rfl).1
    (drifts_performed w (unstarted limit) call)
  rw [hstart]
  refine follows_proceed _ _ ⟨?_, ?_⟩
  · rw [hsame]
    rfl
  · rwa [hsame]

/-- The call that makes a client of an S3 service. -/
def s3Client (c : S3Config) : Call :=
  .s3Client ((Probe.filled? c.region).getD Probe.defaultRegion) (!c.virtualHosted) c.accessKey
    c.secretKey (Probe.filled? c.endpoint) c.skipTlsVerify

/-! ### The tests -/

/-- **What is acquired is released.**  Take any settings, limit and configuration, anything that
comes of the calls, and any order in which calls settle or never do, the program goes on, time
passes and the caller gives up.  A client of an S3 service is destroyed once at most, and once if
the program is over; one that could not be made is not destroyed.  A client of an FTP server is
closed by the last call of a program that is over.  The directory that was made for a program is
removed once at most, and once if the program is over; its removal is the only one and the last
call, and everything that was called before has settled.  Where no directory was made nothing is
removed.

The programs do come to their end if every call settles some time and the program goes on some time
with what it came to.  The calls that a test reports are those of such an order of events, with the
program at its end if no call is left without a reply. -/
theorem acquired_released (w : Circumstances) (s : Settings) (directory : String) (limit : Number) :
    (∀ (c : S3Config) (moments : List Moment),
      let made := (w.answer (fresh limit) (s3Client c)).outcome
      let x := (ofTest w s directory limit .s3 c).after w moments
      let destroyed := Method.s3Destroy.times x.run.calls
      (made = .ok () → destroyed ≤ 1 ∧ (x.stage = .finished → destroyed = 1)) ∧
        ∀ t, made = .error t → destroyed = 0) ∧
    (∀ (c : FtpConfig) (moments : List Moment),
      let made := (w.answer (fresh limit) (.ftpClient limit)).outcome
      let x := (ofTest w s directory limit .ftp c).after w moments
      made = .ok () → x.stage = .finished → ∃ before, x.run.calls = before ++ [.ftpClose]) ∧
    (∀ (c : RcloneConfig) (moments : List Moment),
      let x := (ofTest w s directory limit .rclone c).after w moments
      let removed := Method.remove.times x.run.calls
      (∀ d, (makesDirectory, .ok d) ∈ x.replies →
        removed ≤ 1 ∧ (x.stage = .finished → removed = 1) ∧
          ∀ before call after, x.run.calls = before ++ call :: after → call.method = .remove →
            call = .remove (some d) true ∧ after = [] ∧
              ∀ other ∈ before, ∃ reply, (other, reply) ∈ x.replies) ∧
        ((∀ d, (makesDirectory, .ok d) ∉ x.replies) → removed = 0)) ∧
    ∀ (b : Backend) (c : b.Config),
      (∀ events, (ofTest w s directory limit b c).IsFair w events →
        ∃ n, ∀ m, n ≤ m → ((ofTest w s directory limit b c).upTo w events m).stage = .finished) ∧
      ∃ moments, let x := (ofTest w s directory limit b c).after w moments
        (Probe.testConfig s directory limit b c false w).calls = x.run.calls ∧
          (w.AlwaysReply → x.stage = .finished) := by
  refine ⟨fun c moments => ⟨fun hmade => ?s3, fun t hfailed => ?unmade⟩,
    fun c moments hmade hover => ?ftp, fun c moments => ?rclone,
    fun b c => ⟨fun events hfair => hfair.finishes, ?report⟩⟩
  case s3 =>
    have hfollows : (ofTest w s directory limit .s3 c).Follows
        (fun d => Method.s3Destroy.times d.calls = 0)
        (fun d => Method.s3Destroy.times d.calls = 1) :=
      follows_made (f := fun _ => Course.lookS3 c.bucket) hmade fun d hd => by
        obtain rfl := (Course.drifts_of_free (c := Course.empty.record (s3Client c)) rfl).1 hd
        exact Course.obeys_lookS3 c.bucket rfl rfl
    exact ⟨hfollows.always moments (P := fun d => Method.s3Destroy.times d.calls ≤ 1)
      (fun _ hd => by omega) (fun _ hd => by omega), (hfollows.after moments).1⟩
  case unmade =>
    have hfollows : (ofTest w s directory limit .s3 c).Follows
        (fun d => Method.s3Destroy.times d.calls = 0)
        (fun d => Method.s3Destroy.times d.calls = 0) :=
      follows_unmade (f := fun _ => Course.lookS3 c.bucket) hfailed rfl
    exact hfollows.always moments (fun _ => id) (fun _ => id)
  case ftp =>
    have hfollows : (ofTest w s directory limit .ftp c).Follows (fun _ => True)
        (fun d => ∃ before, d.calls = before ++ [.ftpClose]) :=
      follows_made (f := fun _ => Course.closeFtp (do
        request (.ftpAccess c.host c.port c.username c.password c.useTls
          (c.useTls && c.skipTlsVerify))
        unless c.path = "" do request (.ftpEnter c.path))) hmade
        fun d _ => Course.obeys_closeFtp _ d
    exact (hfollows.after moments).1 hover
  case rclone =>
    have hfollows : (ofTest w s directory limit .rclone c).Follows Course.Tidies Course.Tidied :=
      follows_start limit (Course.obeys_checkRclone s.rcloneBinary limit c)
    have htidies : ((ofTest w s directory limit .rclone c).after w moments).course.Tidies :=
      hfollows.always moments (fun _ => id) (fun _ => Course.Tidied.toTidies)
    refine ⟨fun d hd => ?_, htidies.spares⟩
    have hremoval := htidies.removes d hd
    exact ⟨hremoval.times_le_one, fun hover => ((hfollows.after moments).1 hover).removed d hd,
      fun _ _ _ hcalls hcall => hremoval.of_split hcalls hcall⟩
  case report =>
    obtain ⟨moments, hcalls, -, hover⟩ := exists_testConfig w s directory limit b c
    exact ⟨moments, hcalls, hover⟩

/-- A client that is destroyed, one that is closed after the caller gave up, and a directory that
was made when the caller had given up, and in which the configuration could not be written. -/
theorem acquired_released_unwritten :
    let s := Settings.defaults "key"
    let w := Circumstances.steady (some (.ok .null))
    let bucket : S3Config := ⟨"b", "", "key", "secret", "", "", false, false⟩
    let server : FtpConfig := ⟨"host", 21, "u", "p", false, false, ""⟩
    let remote : RcloneConfig := ⟨"[b]\ntype=s3", ""⟩
    let directory : Json := .string "/tmp/rclone-test-1"
    let looked := (ofTest w s "/data" (.integer 10) .s3 bucket).after w
      [.settles (.ok .null), .resumes]
    let entered := (ofTest w s "/data" (.integer 10) .ftp server).after w
      [.happens .cancels, .settles (.ok .null), .resumes]
    let made := (ofTest w s "/data" (.integer 10) .rclone remote).after w
      [.happens .cancels, .settles (.ok directory), .resumes,
        .settles (.error (.ofMessage "ENOSPC")), .resumes, .settles (.ok .null), .resumes]
    (looked.stage = .finished ∧ Method.s3Destroy.times looked.run.calls = 1) ∧
      (entered.stage = .finished ∧ ∃ before, entered.run.calls = before ++ [.ftpClose]) ∧
      ((makesDirectory, .ok directory) ∈ made.replies ∧ made.stage = .finished ∧
        Method.remove.times made.run.calls = 1) ∧
      ∀ (b : Backend) (c : b.Config),
        (ofTest w s "/data" (.integer 10) b c).IsFair w (byTurns (.ok .null)) ∧
          ∃ n, ∀ m, n ≤ m → ((ofTest w s "/data" (.integer 10) b c).upTo w (byTurns (.ok .null))
            m).stage = .finished := by
  intro s w bucket server remote directory looked entered made
  obtain ⟨hs3, hftp, hrclone, htests⟩ := acquired_released w s "/data" (.integer 10)
  have hlooked : looked.stage = .finished := rfl
  have hentered : entered.stage = .finished := rfl
  have hlist : Remotes.list remote.content = .ok ["b"] := by decide +kernel
  have hfirst : Probe.firstRemote remote.content = pure "b" := by
    rw [Probe.firstRemote, hlist]
    rfl
  have hmade : made.stage = .finished ∧ (makesDirectory, .ok directory) ∈ made.replies := by
    simp only [made, ofTest, Probe.check, Probe.checkRclone, hfirst]
    exact ⟨rfl, List.mem_cons_self⟩
  exact ⟨⟨hlooked, ((hs3 bucket _).1 rfl).2 hlooked⟩, ⟨hentered, hftp server _ rfl hentered⟩,
    ⟨hmade.2, hmade.1, ((hrclone remote _).1 directory hmade.2).2.1 hmade.1⟩,
    fun b c => ⟨isFair_byTurns _ _, (htests b c).1 _ (isFair_byTurns _ _)⟩⟩

end Session

end Depository
