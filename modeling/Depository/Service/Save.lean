import Depository.Service.Access
import Depository.Service.Records
import Depository.Storage.Input

/-!
# Saving a storage

A submitted storage without an id becomes a new one.  With an id it updates the stored one, which
must be in the same workspace; secrets that it leaves empty are kept, unless it is of another
backend.  All checks come before the first change, and a storage is stored with encrypted secrets.

* `Service.save` — saves a submitted storage.
-/

namespace Depository

namespace Service

open Operation (request require lift told log)

/-- Makes a new storage. -/
def create (actor : Actor) (workspaceId : Cell) (input : Input) : Operation Storage := do
  let id ← request .drawId
  let name ← lift input.trimmedName
  let submitted ← lift input.knownVariant
  lift (submitted.validate true)
  let variant ← request (.protect (.ofText id) submitted)
  let saved ← store
    { id := .ofText id, workspaceId, name := .ofText name, isSystem := input.isSystem
      lastSaveError := Storage.testOutcome none, variant := some variant }
  let known ← lift saved.knownVariant
  log (LogLine.created known.typeName (← told saved.id) (← told workspaceId))
  recordAudit actor workspaceId ("Storage created: " ++ (← told saved.name))
  return saved

/-- Updates the stored storage of an id. -/
def update (actor : Actor) (workspaceId id : Cell) (input : Input) : Operation Storage := do
  let existing ← get id
  require (existing.workspaceId.same workspaceId) (.permission .workspaceMismatch)
  require (!(existing.isShared && !input.isSystem.isTruthy)) (.systemStorage .cannotMakePrivate)
  let current ← lift existing.knownVariant
  let submitted ← lift input.knownVariant
  let merged := current.merge submitted
  lift (merged.variant.validate merged.replaced)
  let variant ← request (.protect existing.id merged.variant)
  let name ← lift input.trimmedName
  let saved ← store
    { existing with name := .ofText name, isSystem := input.isSystem, variant := some variant }
  let known ← lift saved.knownVariant
  log (LogLine.updated known.typeName (← told saved.id) (← told workspaceId))
  recordAudit actor workspaceId ("Storage updated: " ++ (← told saved.name))
  return saved

/-- Makes a new storage, or updates the stored one of the given id. -/
def createOrUpdate (actor : Actor) (workspaceId : Cell) (input : Input) : Operation Storage :=
  if input.id.isTruthy then update actor workspaceId input.id input
  else create actor workspaceId input

/-- Saves a submitted storage in a workspace, and comes to what the actor sees of it. -/
def save (cloudMode : Bool) (actor : Actor) (workspaceId : Cell) (input : Input) :
    Operation View := do
  requireManage workspaceId actor .manage
  requireLocal cloudMode actor input.variant
  requireSystem actor input.isSystem
  let name ← lift input.trimmedName
  require (name != "") (.invalid .nameMissing)
  let saved ← createOrUpdate actor workspaceId input
  view actor saved

end Service

end Depository
