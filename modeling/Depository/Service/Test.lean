import Depository.Service.Access
import Depository.Service.Records
import Depository.Service.Save

/-!
# Testing connections

The connection of a stored storage is tested with its own secrets, and the outcome is recorded in
its row, which is read again for that since it may have changed in the meantime.  A submitted
storage is tested without being saved; where it names a stored one, whose secrets fill its empty
ones, the actor must be allowed to manage that one.

* `Service.testStored` — tests a stored storage;
* `Service.testSubmitted` — tests a submitted storage.
-/

namespace Depository

namespace Service

open Operation (request require fail lift attempt told log)

/-- Records the outcome of a connection test, unless the storage is gone. -/
def recordOutcome (id : Cell) (error : Option String) : Operation Unit := do
  match ← find? id with
  | none => return ()
  | some current =>
    match error with
    | none | some "" => pure ()
    | some text => log (LogLine.testFailed (← told id) text)
    let _ ← store { current with lastSaveError := Storage.testOutcome error }
    return ()

/-- Tests the connection of a variant, which must be of a known backend. -/
def probe (owner : Cell) (variant : Option Variant) : Operation Unit :=
  match variant with
  | none => fail (.malformed .noBackend)
  | some v => request (.probe owner v)

/-- Tests the connection of a stored storage and records the outcome.  The failure of the test is
the failure of the operation, whether it could be recorded or not. -/
def testStored (actor : Actor) (id : Cell) : Operation Unit := do
  let s ← get id
  requireView s.workspaceId actor .test
  match ← attempt (probe s.id s.variant) with
  | .ok () => recordOutcome id none
  | .error e =>
    match ← attempt (recordOutcome id (some e.message)) with
    | .ok () => fail e
    | .error recordError =>
      log (LogLine.testNotRecorded (← told id) recordError.message)
      fail e

/-- Tests a submitted storage that names a stored one. -/
def testMerged (actor : Actor) (input : Input) : Operation Unit := do
  let existing ← get input.id
  require (existing.workspaceId.same input.workspaceId) (.permission .workspaceMismatch)
  requireManage existing.workspaceId actor .manage
  requireSystem actor existing.isSystem
  let current ← lift existing.knownVariant
  let submitted ← lift input.knownVariant
  let merged := current.merge submitted
  lift (merged.variant.validate merged.replaced)
  request (.probe existing.id merged.variant)

/-- Tests a submitted storage. -/
def testSubmitted (cloudMode : Bool) (actor : Actor) (input : Input) : Operation Unit := do
  requireView input.workspaceId actor .test
  requireLocal cloudMode actor input.variant
  if input.id.isTruthy then testMerged actor input
  else do
    let v ← lift input.knownVariant
    lift (v.validate true)
    request (.probe none v)

end Service

end Depository
