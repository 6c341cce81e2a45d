import Depository.Access.Actor
import Depository.Service.Operation
import Depository.Storage.View

/-!
# Records in operations

Storages are read from their rows and written to them; a row whose configuration does not have the
form of its backend fails the operation that meets it.

* `Service.find?`, `Service.get`, `Service.list` — storages from the table;
* `Service.store` — a storage to the table;
* `Service.view` — what an actor sees of a storage;
* `Service.writeAudit`, `Service.recordAudit` — an entry of the audit log, which is needed, or which
  the operation can do without.
-/

namespace Depository

namespace Service

open Operation (request fail lift attempt told log)

/-! ### Storages -/

/-- The storage of a row that may be missing. -/
def loadOption : Option Row → Except Failure (Option Storage)
  | none => .ok none
  | some row => (Storage.ofRow row).map some

/-- The storage of an id, if there is one. -/
def find? (id : Cell) : Operation (Option Storage) := do
  let row ← request (.findStorage id)
  lift (loadOption row)

/-- The storage of an id, with its secrets encrypted.  Nobody's rights are looked at. -/
def get (id : Cell) : Operation Storage := do
  match ← find? id with
  | some s => return s
  | none => fail (.notFound (← told id))

/-- The storages of rows; the first row that has not the right form fails. -/
def loadAll : List Row → Except Failure (List Storage)
  | [] => .ok []
  | row :: rest => do
    let s ← Storage.ofRow row
    let more ← loadAll rest
    return s :: more

/-- The storages of a workspace and all system storages, in the order of their names. -/
def list (workspaceId : Cell) : Operation (List Storage) := do
  let rows ← request (.listStorages workspaceId)
  lift (loadAll rows)

/-- Writes a storage to the table, and reads it from what was written. -/
def store (s : Storage) : Operation Storage := do
  let row ← lift s.toRow
  let saved ← request (.saveStorage row)
  lift (Storage.ofRow saved)

/-! ### Views -/

/-- What an actor sees of a storage: only a global administrator sees the configuration of a system
storage, and nobody sees secrets. -/
def viewOf (actor : Actor) (s : Storage) : Except Failure View :=
  View.ofStorage s (s.isShared && !actor.isGlobalAdmin)

/-- What an actor sees of a storage. -/
def view (actor : Actor) (s : Storage) : Operation View := lift (viewOf actor s)

/-- What an actor sees of storages. -/
def viewAll (actor : Actor) : List Storage → Except Failure (List View)
  | [] => .ok []
  | s :: rest => do
    let v ← viewOf actor s
    let more ← viewAll actor rest
    return v :: more

/-! ### The audit log -/

/-- Writes an entry of the audit log, and comes to its row. -/
def writeAudit (entry : Row) : Operation Row := do
  match ← attempt (request (.saveAudit entry)) with
  | .ok row => return row
  | .error e =>
    log (LogLine.auditFailed e.message)
    fail e

/-- Writes an entry about what an actor did in a workspace, or goes on without it. -/
def recordAudit (actor : Actor) (workspaceId : Cell) (message : String) : Operation Unit := do
  match ← attempt (writeAudit (AuditEntry.toRow ⟨message, actor.id, workspaceId⟩)) with
  | .ok _ => return ()
  | .error e => log (LogLine.auditMissed message e.message)

end Service

end Depository
