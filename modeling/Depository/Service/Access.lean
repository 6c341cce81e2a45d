import Depository.Access.Workspace
import Depository.Service.Operation

/-!
# Rights in operations

What an actor may do in a workspace depends on the role that the table of memberships gives him.
For the right to manage, the table is not asked about global administrators.

* `Service.role`, `Service.viewAccess`, `Service.canManage` — the role and the rights of an actor;
* `Service.requireView`, `Service.requireManage` — fail without the right;
* `Service.requireLocal`, `Service.requireSystem` — fail where only a global administrator is
  allowed;
* `Service.anonymous` — an operation without an actor.
-/

namespace Depository

namespace Service

open Operation (request require lift fail)

/-- The role of a user in a workspace, if he has one. -/
def role (workspaceId userId : Cell) : Operation Cell := request (.findRole workspaceId userId)

/-- The right to view a workspace, and the role that it was found from. -/
structure ViewAccess where
  allowed : Bool
  role : Cell

/-- The right of an actor to view a workspace. -/
def viewAccess (workspaceId : Cell) (actor : Actor) : Operation ViewAccess := do
  let r ← role workspaceId actor.id
  return ⟨mayView actor r, r⟩

/-- The right of an actor to manage the storages of a workspace. -/
def canManage (workspaceId : Cell) (actor : Actor) : Operation Bool :=
  if actor.isGlobalAdmin then pure true
  else do
    let r ← role workspaceId actor.id
    lift (mayManage actor r)

/-- Fails with a reason unless the actor may view the workspace. -/
def requireView (workspaceId : Cell) (actor : Actor) (reason : PermissionReason) :
    Operation Unit := do
  let access ← viewAccess workspaceId actor
  require access.allowed (.permission reason)

/-- Fails with a reason unless the actor may manage the storages of the workspace. -/
def requireManage (workspaceId : Cell) (actor : Actor) (reason : PermissionReason) :
    Operation Unit := do
  let allowed ← canManage workspaceId actor
  require allowed (.permission reason)

/-- Fails for local disk where the service is shared, unless the actor is a global administrator. -/
def requireLocal (cloudMode : Bool) (actor : Actor) (v : Option Variant) : Operation Unit :=
  let isLocal := v.any fun v => v.backend == .localDisk
  require (!(cloudMode && isLocal && !actor.isGlobalAdmin)) (.permission .localInCloud)

/-- Fails for a system storage unless the actor is a global administrator. -/
def requireSystem (actor : Actor) (isSystem : Cell) : Operation Unit :=
  require (!(isSystem.isTruthy && !actor.isGlobalAdmin)) (.permission .systemStorage)

/-- An operation that nobody asks for.  It fails as soon as the rights of its actor are looked at,
and an actor without rights is looked at before all that it could come to but for other failures. -/
def anonymous {α : Type} : Operation α → Operation α
  | .done (.ok _) | .done (.error (.permission _)) => fail (.malformed .noActor)
  | .done (.error e) => fail e
  | .ask (.findRole _ _) _ => fail (.malformed .noActor)
  | .ask i next => .ask i fun r => anonymous (next r)

end Service

end Depository
