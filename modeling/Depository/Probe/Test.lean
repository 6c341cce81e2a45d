import Depository.Log
import Depository.Probe.Backends
import Depository.Probe.Run
import Depository.Variant

/-!
# Connection tests

The secrets of a variant are decrypted first; where that fails nothing is called.  Then the test of
its backend runs under a deadline, and whatever interrupts it or comes of it is told as the failure
of the connection.

* `Probe.Report` — what comes of a test;
* `Probe.testWithin` — the test of a variant within a limit, and `Probe.test`, within that of the
  settings.
-/

namespace Depository

namespace Probe

/-- What came of a test. -/
structure Report where
  outcome : Except Failure Unit
  /-- All calls, also those after the outcome. -/
  calls : List Call
  /-- The number of ids taken. -/
  drawn : Nat
  log : List LogLine

/-- What a verdict tells. -/
inductive Finding where
  | success
  /-- The connection failed, and why. -/
  | failed (detail : String)
  /-- The connection failed with a value that cannot be told. -/
  | untold
  deriving DecidableEq, Repr

/-- What a verdict tells. -/
def finding (limit : Number) : Verdict (Except Trouble Unit) → Finding
  | .own (.ok ()) => .success
  | .own (.error t) => t.text?.elim .untold .failed
  | .interrupted cause => .failed (Deadline.message limit.text cause)

/-- The verdict of a run, which `play_decided` shows to be there. -/
def verdict (r : Run) : Verdict (Except Trouble Unit) :=
  r.deadline.verdict?.getD (.interrupted .timeout)

/-- The report of a run that tells a finding. -/
def report (b : Backend) (f : Finding) (r : Run) : Report :=
  let noted := r.notes.map (LogLine.releaseFailed b)
  match f with
  | .success => ⟨.ok (), r.calls, r.drawn, noted⟩
  | .failed text =>
    ⟨.error (.connection b text), r.calls, r.drawn, noted ++ [LogLine.probeFailed b text]⟩
  | .untold => ⟨.error (.malformed .noPlainText), r.calls, r.drawn, noted⟩

/-- The report of a test that was not started. -/
def refused (b : Backend) (text : String) : Report :=
  ⟨.error (.connection b text), [], 0, [LogLine.probeFailed b text]⟩

/-- The report of a test for which a secret was not decrypted. -/
def unrevealed (owner : Cell) (fault : Field.DecryptionFault) : Report :=
  ⟨.error (.ofDecryption owner fault), [], 0, (LogLine.decryptionFailed? owner fault).toList⟩

/-- The test of a configuration with its secrets in clear.  `cancelled` tells that the caller gave
up before. -/
def testConfig (s : Settings) (directory : String) (limit : Number) (b : Backend) (c : b.Config)
    (cancelled : Bool) (w : Circumstances) : Report :=
  match Deadline.start? limit cancelled with
  | none => refused b (Deadline.message limit.text .cancellation)
  | some d =>
    let r := play w (check s directory limit b c) (Run.start d)
    report b (finding limit (verdict r)) r

/-- The test of a variant within a limit.  `owner` is the record that owns its stored secrets, if it
is stored. -/
def testWithin (s : Settings) (directory : String) (limit : Number) (owner : Cell) (v : Variant)
    (cancelled : Bool) (w : Circumstances) : Report :=
  match v.reveal s.encryptionKey owner with
  | .error fault => unrevealed owner fault
  | .ok plain => testConfig s directory limit plain.backend plain.config cancelled w

/-- The test of a variant within the limit of the settings. -/
def test (s : Settings) (directory : String) (owner : Cell) (v : Variant) (cancelled : Bool)
    (w : Circumstances) : Report :=
  testWithin s directory (.integer s.probeTimeout) owner v cancelled w

end Probe

end Depository
