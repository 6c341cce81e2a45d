import Depository.Proofs.HostKey
import Depository.Proofs.Probe.Course
import Depository.Proofs.Probe.Teardown

/-!
# The host keys that a session accepts

The test of an SFTP server opens one session, and its first call does it.  Where host keys are
verified and a fingerprint is pinned, the session is opened with a verifier that looks at the key of
the host: it accepts the key of the fingerprint, however that is spelled, and no two keys of
different digests, whatever is pinned.

* `Call.verifier?` — what a session accepts host keys by;
* `Course.OpensWith`, `Course.obeys_checkSftp` — the one call that opens a session;
* `Probe.Verifies` — the calls of a test whose session has this verifier;
* `Probe.testConfig_verifies` — **a pinned fingerprint accepts its key and no other digest**.
-/

namespace Depository

open Course (Ends)
open Session (endSftp endSftp_eq goOnSftp foundAt sftpConnect checkSftp_eq)

/-- What a session accepts host keys by, if it does not accept all of them. -/
def Call.verifier? : Call → Option (Bytes → Bool)
  | sftpConnect _ _ _ _ _ _ pinned => pinned.map HostKey.accepts
  | _ => none

namespace Course

variable {connect call : Call} {c d : Course}

/-- The first call opened a session, no other call did, and nothing but its end is arranged. -/
structure OpensWith (connect : Call) (c : Course) : Prop where
  calls : ∃ rest, c.calls = connect :: rest ∧ ∀ call ∈ rest, call.method ≠ .sftpConnect
  release : ∀ call ∈ c.release, call = .sftpEnd

namespace OpensWith

/-- Another call, which opens no session. -/
theorem record (h : c.OpensWith connect) (hcall : call.method ≠ .sftpConnect) :
    (c.record call).OpensWith connect := by
  obtain ⟨rest, hcalls, hrest⟩ := h.calls
  refine ⟨⟨rest ++ [call], ?_, ?_⟩, h.release⟩
  · rw [Course.record, hcalls, List.cons_append]
  · exact List.forall_mem_append.2 ⟨hrest, List.forall_mem_singleton.2 hcall⟩

theorem hear (h : c.OpensWith connect) (reply : Except Trouble Json) :
    (c.hear call reply).OpensWith connect := ⟨h.calls, h.release⟩

theorem arrange_none (h : c.OpensWith connect) :
    OpensWith connect { c with release := none } := ⟨h.calls, by simp⟩

theorem drift (h : c.OpensWith connect) (hd : c.Drifts d) : d.OpensWith connect := by
  cases hd with
  | still => exact h
  | told =>
    cases hrelease : c.release with
    | none =>
      rw [tell_of_free hrelease]
      exact h
    | some call =>
      obtain rfl := h.release call hrelease
      have htell : c.tell = { c.record .sftpEnd with release := none } := by
        simp [tell, Course.record, hrelease]
      rw [htell]
      exact (h.record (by simp [Call.method])).arrange_none

end OpensWith

/-! ### The test of an SFTP server -/

theorem obeys_endSftp (h : c.OpensWith connect) (outcome : Except Trouble Unit) :
    (endSftp outcome).Obeys (law (OpensWith connect)) (Ends (OpensWith connect)) c := by
  rw [endSftp_eq]
  intro arranged harranged
  obtain rfl : arranged = none := by simpa using harranged
  intro told
  have hfree := h.arrange_none
  cases told with
  | true => exact ⟨rfl, hfree⟩
  | false =>
    intro d hd
    have hended : OpensWith connect (Course.record .sftpEnd { c with release := none }) :=
      hfree.record (by simp [Call.method])
    have hd' := hended.drift hd
    obtain rfl := (drifts_of_free rfl).1 hd
    exact ⟨hd', fun reply => ⟨hd'.hear reply, rfl, hd'.hear reply⟩⟩

theorem obeys_goOnSftp (h : c.OpensWith connect) (path : String)
    (opened : Except Trouble Json) :
    (goOnSftp path opened).Obeys (law (OpensWith connect)) (Ends (OpensWith connect)) c := by
  cases opened with
  | error t =>
    intro arranged harranged
    obtain rfl : arranged = none := by simpa using harranged
    exact ⟨rfl, h.arrange_none⟩
  | ok _ =>
    rw [goOnSftp]
    split
    · exact obeys_endSftp h _
    · intro d hd
      have hlooked : (c.record (.sftpExists path)).OpensWith connect :=
        h.record (by simp [Call.method])
      have hd' := hlooked.drift hd
      exact ⟨hd', fun reply => ⟨hd'.hear reply, obeys_endSftp (hd'.hear reply) _⟩⟩

/-- **The test of an SFTP server opens one session, and that first.** -/
theorem obeys_checkSftp (timeout : Number) (c : SftpConfig) :
    (Probe.checkSftp timeout c).Obeys (law (OpensWith (sftpConnect timeout c)))
      (Ends (OpensWith (sftpConnect timeout c))) .empty := by
  rw [checkSftp_eq]
  intro arranged harranged d hd
  have hopened : OpensWith (sftpConnect timeout c)
      (({ empty with release := arranged } : Course).record (sftpConnect timeout c)) := by
    refine ⟨⟨[], rfl, by simp⟩, fun call hcall => ?_⟩
    rcases List.mem_cons.1 harranged with rfl | hsome
    · cases hcall
    · obtain rfl := List.mem_singleton.1 hsome
      exact (Option.some.inj hcall).symm
  have hd' := hopened.drift hd
  exact ⟨hd', fun reply => ⟨hd'.hear reply, obeys_goOnSftp (hd'.hear reply) _ _⟩⟩

end Course

namespace Probe

/-- The first of the calls opens a session with this verifier, and no other call opens one. -/
def Verifies (verify : Bytes → Bool) (calls : List Call) : Prop :=
  ∃ connect rest, calls = connect :: rest ∧ connect.method = .sftpConnect ∧
    connect.verifier? = some verify ∧ ∀ call ∈ rest, call.method ≠ .sftpConnect

/-- The calls of the test of an SFTP server. -/
theorem calls_testConfig_sftp (s : Settings) (directory : String) (limit : Number) (c : SftpConfig)
    (w : Circumstances) :
    ∃ rest, (testConfig s directory limit .sftp c false w).calls = sftpConnect limit c :: rest ∧
      ∀ call ∈ rest, call.method ≠ .sftpConnect := by
  obtain ⟨moments, hcalls, -⟩ := Session.exists_testConfig w s directory limit .sftp c
  have hfollows := Session.follows_start (w := w) limit (Course.obeys_checkSftp limit c)
  rw [hcalls]
  exact (hfollows.always moments (fun _ h => h) fun _ h => h).calls

/-- Where host keys are verified, the session of a test has the verifier of the fingerprint. -/
theorem verifies_testConfig (s : Settings) (directory : String) (limit : Number) {c : SftpConfig}
    (hskip : c.skipHostKeyVerify = false) (hgiven : c.fingerprint ≠ "") (w : Circumstances) :
    Verifies (HostKey.accepts c.fingerprint)
      (testConfig s directory limit .sftp c false w).calls := by
  obtain ⟨rest, hcalls, hrest⟩ := calls_testConfig_sftp s directory limit c w
  refine ⟨_, rest, hcalls, rfl, ?_, hrest⟩
  have hpinned : pinned? c = some c.fingerprint := by simp [pinned?, hskip, filled?, hgiven]
  rw [sftpConnect, Call.verifier?, hpinned]
  rfl

/-- **A pinned fingerprint accepts its key and no other digest.**  Take any settings, any limit and
any configuration of an SFTP server for which host keys are verified, and whatever comes of the
calls.  If the fingerprint is a spelling of that of a key, the one session of the test is opened
with a verifier that accepts the key.  And whatever text is pinned, if it is not empty, the session
has a verifier that accepts no two keys of different digests. -/
theorem testConfig_verifies (s : Settings) (directory : String) (limit : Number) {c : SftpConfig}
    (hskip : c.skipHostKeyVerify = false) (w : Circumstances) :
    let calls := (testConfig s directory limit .sftp c false w).calls
    (∀ key, HostKey.Spells c.fingerprint key →
      ∃ verify, Verifies verify calls ∧ verify key = true) ∧
    (c.fingerprint ≠ "" → ∃ verify, Verifies verify calls ∧
      ∀ key other, verify key = true → verify other = true →
        Sha256.digestBytes key = Sha256.digestBytes other) := by
  intro calls
  refine ⟨fun key hspells => ?_, fun hgiven => ?_⟩
  · exact ⟨_, verifies_testConfig s directory limit hskip hspells.ne_empty w,
      HostKey.accepts_of_spells hspells⟩
  · exact ⟨_, verifies_testConfig s directory limit hskip hgiven w,
      fun _ _ => HostKey.digest_eq_of_accepts⟩

/-- The fingerprint of the empty key, with blanks around it, its mark in lower case and its padding:
it accepts that key, and not another one besides. -/
theorem testConfig_verifies_empty :
    let c : SftpConfig := ⟨"host", 22, "u", "p", "", false,
      " sha256:47DEQpj8HBSa+/TImW+5JCeuQeRkm5NMpJWZG3hSuFU= ", ""⟩
    let calls := (testConfig (.defaults "key") "/data" (.integer 10) .sftp c false
      (.steady none)).calls
    (∃ verify, Verifies verify calls ∧ verify [] = true) ∧
      ∃ verify, Verifies verify calls ∧ ¬(verify [] = true ∧ verify [0] = true) := by
  intro c calls
  obtain ⟨haccepts, hone⟩ :=
    testConfig_verifies (.defaults "key") "/data" (.integer 10) (c := c) rfl (.steady none)
  have hspells : HostKey.Spells c.fingerprint [] :=
    ⟨"sha256:", "47DEQpj8HBSa+/TImW+5JCeuQeRkm5NMpJWZG3hSuFU=", by decide +kernel,
      .inr (by decide), .inl (by decide +kernel)⟩
  obtain ⟨verify, hverifies, hdigest⟩ := hone (by decide)
  refine ⟨haccepts [] hspells, verify, hverifies, fun hboth => ?_⟩
  have hdiffer : Sha256.digestBytes [] ≠ Sha256.digestBytes [0] := by decide +kernel
  exact hdiffer (hdigest _ _ hboth.1 hboth.2)

end Probe

end Depository
