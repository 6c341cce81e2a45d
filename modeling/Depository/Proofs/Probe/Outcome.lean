import Depository.Probe.Test

/-!
# How connection tests fail

A connection test fails because a secret is not decrypted, because of the connection, or because the
trouble cannot be told (`Probe.failure_of_test`).  Where the owner of the secrets is given by a
text, the first is told as a failed decryption, which nothing else is
(`Probe.outcome_eq_decryption_iff`).
-/

namespace Depository

namespace Probe

variable {s : Settings} {directory : String} {limit : Number} {owner : Cell} {v : Variant}
  {cancelled : Bool} {c : Circumstances} {e : Failure}

/-- The test of a configuration in clear fails because of the connection, or with trouble that
cannot be told. -/
theorem failure_of_testConfig {b : Backend} {config : b.Config}
    (h : (testConfig s directory limit b config cancelled c).outcome = .error e) :
    (∃ text, e = .connection b text) ∨ e = .malformed .noPlainText := by
  unfold testConfig at h
  dsimp only at h
  split at h
  · exact .inl ⟨_, (Except.error.inj h).symm⟩
  · unfold report at h
    split at h
    · cases h
    · exact .inl ⟨_, (Except.error.inj h).symm⟩
    · exact .inr (Except.error.inj h).symm

/-- **Why a connection test fails**: a secret is not decrypted, or the test of its backend fails. -/
theorem failure_of_test (h : (test s directory owner v cancelled c).outcome = .error e) :
    (∃ fault, v.reveal s.encryptionKey owner = .error fault ∧ e = .ofDecryption owner fault) ∨
      (∃ b text, e = .connection b text) ∨ e = .malformed .noPlainText := by
  rw [test, testWithin] at h
  cases hreveal : v.reveal s.encryptionKey owner with
  | error fault =>
    rw [hreveal] at h
    exact .inl ⟨fault, rfl, (Except.error.inj h).symm⟩
  | ok plain =>
    rw [hreveal] at h
    exact .inr ((failure_of_testConfig h).imp_left fun htext => ⟨plain.backend, htext⟩)

end Probe

end Depository
