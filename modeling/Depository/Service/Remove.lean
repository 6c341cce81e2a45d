import Depository.Service.Access
import Depository.Service.Records

/-!
# Removing and transferring storages

A storage to which databases back up stays where it is.

* `Service.delete` — deletes a storage;
* `Service.transfer` — moves a storage to another workspace;
* `Service.clearWorkspace` — deletes the storages of a workspace that is to be removed.
-/

namespace Depository

namespace Service

open Operation (request require told log)

/-- Deletes a storage. -/
def delete (actor : Actor) (id : Cell) : Operation Unit := do
  let s ← get id
  requireManage s.workspaceId actor .manage
  requireSystem actor s.isSystem
  let databases ← request (.findDatabases id)
  require databases.isEmpty (.attachment .deleteBlocked)
  request (.deleteStorage id)
  log (LogLine.deleted (← told id) (← told s.workspaceId))
  recordAudit actor s.workspaceId ("Storage deleted: " ++ (← told s.name))

/-- Fails unless the databases that back up to a storage allow its transfer: there are none, or only
the one that is transferred with it, where one is given. -/
def requireDetached (databases : List Cell) (single : Cell) : Operation Unit :=
  if single.isTruthy then
    require (databases.all fun d => d.same single) (.attachment .otherDatabasesAttached)
  else require databases.isEmpty (.attachment .transferBlocked)

/-- Moves a storage to another workspace. -/
def transfer (actor : Actor) (id target single : Cell) : Operation Unit := do
  let s ← get id
  require (!s.isShared) (.systemStorage .cannotTransfer)
  requireManage s.workspaceId actor .sourceWorkspace
  requireManage target actor .targetWorkspace
  let databases ← request (.findDatabases id)
  requireDetached databases single
  let _ ← store { s with workspaceId := target }
  log (LogLine.transferred (← told id) (← told s.workspaceId) (← told target))
  recordAudit actor target
    ("Storage transferred: " ++ (← told s.name) ++ " from workspace " ++ (← told s.workspaceId) ++
      " to workspace " ++ (← told target))

/-- Deletes storages one after another. -/
def deleteAll : List Storage → Operation Unit
  | [] => pure ()
  | s :: rest => do
    request (.deleteStorage s.id)
    deleteAll rest

/-- Deletes the storages of a workspace that is to be removed.  If one of them is a system storage
nothing is deleted, and the workspace stays. -/
def clearWorkspace (workspaceId : Cell) : Operation Unit := do
  let storages ← list workspaceId
  let owned := storages.filter fun s => s.workspaceId.same workspaceId
  require (!owned.any Storage.isShared) (.systemStorage .blocksWorkspaceDeletion)
  deleteAll owned
  log (LogLine.removed owned.length (← told workspaceId))

end Service

end Depository
