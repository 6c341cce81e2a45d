import Depository.Access.Actor

/-!
# Workspaces

Users have roles in workspaces.  Whoever has a role in a workspace may view it; members, admins and
owners may also manage its storages, and viewers may not.  Anything else that stands for a role lets
its user view and no more.  A global administrator may do both everywhere.

* `WorkspaceRole` — the roles;
* `mayView`, `mayManage` — the two rights, from the role that an actor has in a workspace.
-/

namespace Depository

/-- A role in a workspace. -/
inductive WorkspaceRole where
  | viewer
  | member
  | admin
  | owner
  deriving DecidableEq, Repr

namespace WorkspaceRole

/-- The name of a role. -/
def name : WorkspaceRole → String
  | viewer => "VIEWER"
  | member => "MEMBER"
  | admin => "ADMIN"
  | owner => "OWNER"

/-- The roles by their names. -/
def table : List (String × WorkspaceRole) :=
  [viewer, member, admin, owner].map fun r => (r.name, r)

/-- The rank of a role among all. -/
def rank : WorkspaceRole → Nat
  | viewer => 1
  | member => 2
  | admin => 3
  | owner => 4

/-- A user of this role may manage storages. -/
def manages (r : WorkspaceRole) : Bool := member.rank ≤ r.rank

end WorkspaceRole

/-- An actor with this role in a workspace may view it. -/
def mayView (actor : Actor) (role : Cell) : Bool := role.isSome || actor.isGlobalAdmin

/-- A role of this name may manage storages. -/
def managesByName (role : String) : Bool :=
  match WorkspaceRole.table.lookup role with
  | some r => r.manages
  | none => false

/-- A user with this role may manage storages.  What stands for a role counts by its plain text, and
what does not count as true gives no right. -/
def managesAs (role : Cell) : Except Failure Bool :=
  if role.isTruthy then
    match role.plainText? with
    | some name => .ok (managesByName name)
    | none => .error (.malformed .noPlainText)
  else .ok false

/-- An actor with this role in a workspace may manage its storages. -/
def mayManage (actor : Actor) (role : Cell) : Except Failure Bool :=
  if actor.isGlobalAdmin then .ok true else managesAs role

end Depository
