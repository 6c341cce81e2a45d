import Depository.Proofs.Probe.Discipline
import Depository.Proofs.Probe.Release

/-!
# The test of a drive with a token

The test of a drive reads the token once more before it makes any call.  Where the configuration has
a token, that part of the test cannot fail: the client is made, it is given the credentials of the
token, and what the test fails with is said by a call, by the deadline, or of an answer without an
access token.

* `Probe.failed_of_connection` — a failed connection is told in the words of trouble or of the
  deadline;
* `Probe.driveCalls` — the calls of the test, and `Probe.calls_checkDrive`;
* `Probe.testConfig_drive` — **the test of a drive with a token never refuses the token**.
-/

namespace Depository

namespace Probe

open Check (ask request)

variable {w : Circumstances} {r : Run} {T : Trouble → Prop}

/-- A failed connection is told in the words of trouble of the kind that the program and its calls
come to, or in those of the deadline. -/
theorem failed_of_connection {s : Settings} {directory : String} {limit : Number} {b : Backend}
    {c : b.Config} {cancelled : Bool} {text : String} (hw : w.Meets T)
    (hc : (check s directory limit b c).Comes T fun _ => True)
    (h : (testConfig s directory limit b c cancelled w).outcome = .error (.connection b text)) :
    (∃ t, T t ∧ t.text? = some text) ∨ ∃ cause, text = Deadline.message limit.text cause := by
  unfold testConfig at h
  cases hstart : Deadline.start? (α := Except Trouble Unit) limit cancelled with
  | none =>
    rw [hstart] at h
    obtain ⟨-, rfl⟩ := Failure.connection.inj (Except.error.inj h)
    exact .inr ⟨.cancellation, rfl⟩
  | some d =>
    rw [hstart] at h
    have hcaused := play_own hw hc (Run.isCaused_start hstart)
    -- every run comes to a verdict, so that none has to be made up
    obtain ⟨v, hv⟩ := Option.isSome_iff_exists.1
      (play_decided w (check s directory limit b c) (Run.start d))
    dsimp only at h
    rw [verdict, hv, Option.getD_some] at h
    cases v with
    | interrupted cause =>
      obtain ⟨-, rfl⟩ := Failure.connection.inj (Except.error.inj h)
      exact .inr ⟨cause, rfl⟩
    | own outcome =>
      cases outcome with
      | ok _ => cases h
      | error t =>
        refine .inl ⟨t, hcaused t hv, ?_⟩
        rw [finding] at h
        cases htext : t.text? with
        | none =>
          rw [htext] at h
          cases h
        | some told =>
          rw [htext] at h
          obtain ⟨-, rfl⟩ := Failure.connection.inj (Except.error.inj h)
          rfl

/-- The calls of the test of a drive, in order, if nothing keeps it from the end. -/
def driveCalls (limit : Number) (c : DriveConfig) (token : OAuth.Token) : List Call :=
  [.googleClient c.clientId c.clientSecret, .googleCredentials token.credentials,
    .googleAccessToken, .googleRequest driveAboutUrl limit]

/-- What the test does once the client has its credentials. -/
def askDrive (limit : Number) : Check Unit := do
  let answer ← ask .googleAccessToken
  accessToken answer
  request (.googleRequest driveAboutUrl limit)

theorem accessToken_cases (answer : Json) :
    accessToken answer = pure () ∨ ∃ t, accessToken answer = Check.fail t := by
  unfold accessToken
  split
  · exact .inr ⟨_, rfl⟩
  · split
    · exact .inl rfl
    · exact .inr ⟨_, rfl⟩

/-- The access token is asked for, and perhaps the drive. -/
theorem calls_askDrive (limit : Number) (hfree : r.release = none) :
    (play w (askDrive limit) r).calls = r.calls ++ [.googleAccessToken] ∨
      (play w (askDrive limit) r).calls =
        r.calls ++ [.googleAccessToken, .googleRequest driveAboutUrl limit] := by
  obtain ⟨r₁, hcalls₁, hfree₁, hplay₁⟩ := exists_play_await (w := w) hfree .googleAccessToken
    fun reply => (Check.done reply).bind fun answer =>
      accessToken answer >>= fun _ => request (.googleRequest driveAboutUrl limit)
  rw [show askDrive limit = .await .googleAccessToken _ from rfl, hplay₁]
  cases (w.waiting r .googleAccessToken).reply with
  | none => exact .inl hcalls₁
  | some reply =>
    cases reply with
    | error t => exact .inl ((calls_play_done hfree₁ _).trans hcalls₁)
    | ok answer =>
      rw [Option.elim_some, Check.bind]
      rcases accessToken_cases answer with hok | ⟨t, ht⟩
      · obtain ⟨r₂, hcalls₂, hfree₂, hplay₂⟩ := exists_play_await (w := w) hfree₁
          (.googleRequest driveAboutUrl limit) fun reply => (Check.done reply).bind fun _ => pure ()
        refine .inr ?_
        have hcalls : r₂.calls =
            r.calls ++ [.googleAccessToken, .googleRequest driveAboutUrl limit] := by
          rw [hcalls₂, hcalls₁, List.append_assoc]
          rfl
        rw [hok, Check.pure_bind,
          show request (.googleRequest driveAboutUrl limit) = .await _ _ from rfl, hplay₂, ← hcalls]
        cases (w.waiting r₁ _).reply with
        | none => rfl
        | some reply => cases reply <;> exact calls_play_done hfree₂ _
      · rw [ht, Check.fail_bind]
        exact .inl ((calls_play_done hfree₁ _).trans hcalls₁)

/-- The test of a drive with a token makes its calls in order up to some place.  It makes the
client, and if that is made it is given the credentials of the token. -/
theorem calls_checkDrive (limit : Number) {c : DriveConfig} {token : OAuth.Token}
    (htoken : OAuth.Token.parse? c.token = some token) (hcalls : r.calls = [])
    (hfree : r.release = none) :
    ∃ n, 1 ≤ n ∧ (play w (checkDrive limit c) r).calls = (driveCalls limit c token).take n ∧
      ((w.answer r (.googleClient c.clientId c.clientSecret)).outcome = .ok () → 2 ≤ n) := by
  have hcheck : checkDrive limit c =
      .perform (.googleClient c.clientId c.clientSecret) fun made =>
        (Check.done made).bind fun _ =>
          .perform (.googleCredentials token.credentials) fun given =>
            (Check.done given).bind fun _ => askDrive limit := by
    rw [checkDrive, htoken]
    rfl
  obtain ⟨r₁, hcalls₁, hfree₁, hplay₁⟩ := exists_play_perform (w := w) hfree
    (.googleClient c.clientId c.clientSecret) fun made => (Check.done made).bind fun _ =>
      .perform (.googleCredentials token.credentials) fun given =>
        (Check.done given).bind fun _ => askDrive limit
  rw [hcheck, hplay₁]
  rw [hcalls] at hcalls₁
  cases (w.answer r (.googleClient c.clientId c.clientSecret)).outcome with
  | error t =>
    rw [Check.bind, calls_play_done hfree₁, hcalls₁]
    refine ⟨1, Nat.le_refl 1, rfl, fun hmade => ?_⟩
    cases hmade
  | ok _ =>
    obtain ⟨r₂, hcalls₂, hfree₂, hplay₂⟩ := exists_play_perform (w := w) hfree₁
      (.googleCredentials token.credentials) fun given =>
        (Check.done given).bind fun _ => askDrive limit
    rw [Check.bind, hplay₂]
    rw [hcalls₁] at hcalls₂
    cases (w.answer r₁ (.googleCredentials token.credentials)).outcome with
    | error t =>
      rw [Check.bind, calls_play_done hfree₂, hcalls₂]
      exact ⟨2, by decide, rfl, fun _ => Nat.le_refl 2⟩
    | ok _ =>
      rw [Check.bind]
      rcases calls_askDrive (w := w) limit hfree₂ with h | h <;> rw [h, hcalls₂]
      · exact ⟨3, by decide, rfl, fun _ => by decide⟩
      · exact ⟨4, by decide, rfl, fun _ => by decide⟩

/-- How the test of a drive says that there is no token. -/
def tokenRefusal : String := "stored token is not valid OAuth token JSON"

theorem message_ne_tokenRefusal (limit : String) (cause : Interruption) :
    Deadline.message limit cause ≠ tokenRefusal := by
  intro h
  cases cause with
  | timeout =>
    have htext : "timed out after " ++ (limit ++ "ms") = tokenRefusal :=
      String.append_assoc.symm.trans h
    have hlist : "timed out after ".toList ++ (limit ++ "ms").toList = tokenRefusal.toList :=
      String.toList_append.symm.trans (congrArg String.toList htext)
    have hhead : some 't' = some 's' := congrArg List.head? hlist
    exact absurd hhead (by decide)
  | cancellation =>
    have htext : "operation was cancelled" = tokenRefusal := h
    exact absurd htext (by decide)

/-- **The test of a drive with a token never refuses the token.**  In all settings and circumstances
it goes on to make the client, sets no credentials but those of the token, does set them if the
client can be made, and unless a call fails in the very words in which the test refuses a token, it
does not fail in these words. -/
theorem testConfig_drive {c : DriveConfig} {token : OAuth.Token}
    (htoken : OAuth.Token.parse? c.token = some token) (s : Settings) (directory : String)
    (limit : Number) (cancelled : Bool) (w : Circumstances) :
    let report := testConfig s directory limit .googleDrive c cancelled w
    (cancelled = false →
      ∃ rest, report.calls = Call.googleClient c.clientId c.clientSecret :: rest) ∧
    (∀ credentials, Call.googleCredentials credentials ∈ report.calls →
      credentials = token.credentials) ∧
    (cancelled = false →
      (∀ r, (w.answer r (.googleClient c.clientId c.clientSecret)).outcome = .ok ()) →
      Call.googleCredentials token.credentials ∈ report.calls) ∧
    (w.Meets (fun t => t.text? ≠ some tokenRefusal) →
      report.outcome ≠ .error (.connection .googleDrive tokenRefusal)) := by
  intro report
  have hplayed : cancelled = false → report.calls =
      (play w (checkDrive limit c) (Run.start ⟨limit, 0, false, .starting none⟩)).calls := by
    rintro rfl
    exact calls_report ..
  obtain ⟨n, hn, hcalls, hgiven⟩ := calls_checkDrive (w := w)
    (r := Run.start ⟨limit, 0, false, .starting none⟩) limit htoken rfl rfl
  refine ⟨fun hstarted => ?begun, fun credentials hmem => ?only, fun hstarted hmade => ?given,
    fun hw hrefused => ?told⟩
  case begun =>
    obtain ⟨k, rfl⟩ := Nat.exists_eq_add_of_le' hn
    exact ⟨_, (hplayed hstarted).trans hcalls⟩
  case only =>
    cases cancelled with
    | true => cases hmem
    | false =>
      rw [hplayed rfl, hcalls] at hmem
      simpa [driveCalls] using List.mem_of_mem_take hmem
  case given =>
    obtain ⟨k, rfl⟩ := Nat.exists_eq_add_of_le' (hgiven (hmade _))
    rw [hplayed hstarted, hcalls]
    exact List.mem_cons_of_mem _ List.mem_cons_self
  case told =>
    have hcomes : (check s directory limit .googleDrive c).Comes
        (fun t => t.text? ≠ some tokenRefusal) fun _ => True :=
      checkDrive_comes_of_token limit htoken (by decide) (by decide)
    obtain ⟨t, ht, htext⟩ | ⟨cause, hcause⟩ := failed_of_connection hw hcomes hrefused
    · exact ht htext
    · exact message_ne_tokenRefusal _ cause hcause.symm

end Probe

end Depository
