import Depository.Database.Listing
import Depository.Database.Row

/-!
# Tables

The service keeps its records in four tables.

* `Tables` — the tables, and `Tables.on`, a change of the one of a name;
* `Tables.find?`, `Tables.visibleIn`, `Tables.save`, `Tables.delete` — the storages;
* `Tables.role` — the role of a user in a workspace;
* `Tables.databasesOf` — the databases that back up to a storage;
* `AuditEntry` — what an entry of the audit log tells.
-/

namespace Depository

/-- What an entry of the audit log tells. -/
structure AuditEntry where
  message : String
  userId : Cell
  workspaceId : Cell

/-- The row of an entry, which has no id yet. -/
def AuditEntry.toRow (e : AuditEntry) : Row :=
  ⟨[("message", .ofText e.message), ("userId", e.userId), ("workspaceId", e.workspaceId)]⟩

/-- The tables of the service. -/
structure Tables where
  storages : List Row
  memberships : List Row
  attachments : List Row
  audit : List Row

namespace Tables

/-- The names of the tables. -/
inductive Name where
  | storages
  | memberships
  | attachments
  | audit
  deriving DecidableEq, Repr

/-- The tables with a change made to the one of a name. -/
def on (t : Tables) (change : List Row → List Row) : Name → Tables
  | .storages => { t with storages := change t.storages }
  | .memberships => { t with memberships := change t.memberships }
  | .attachments => { t with attachments := change t.attachments }
  | .audit => { t with audit := change t.audit }

/-! ### Storages -/

/-- The row of a storage. -/
def find? (id : Cell) (t : Tables) : Option Row := Row.find? id t.storages

/-- The row is of a workspace, or of a system storage. -/
def isVisibleIn (workspaceId : Cell) (r : Row) : Bool :=
  r.has "workspaceId" workspaceId || (r.get? "isSystem").isTrue

/-- One row comes before another one in lists. -/
def isBefore (a b : Row) : Bool := (a.get? "name").isBefore (b.get? "name")

/-- The rows of a workspace and all system rows, in the order of their names. -/
def visibleIn (workspaceId : Cell) (t : Tables) : List Row :=
  Listing.sort isBefore (t.storages.filter (isVisibleIn workspaceId))

/-- Rows can be listed: there is nothing to compare, or each name can be told. -/
def canList (rows : List Row) : Bool :=
  rows.length < 2 || rows.all fun r => (r.get? "name").plainText?.isSome

theorem mem_visibleIn {workspaceId : Cell} {t : Tables} {r : Row} :
    r ∈ t.visibleIn workspaceId ↔ r ∈ t.storages ∧ isVisibleIn workspaceId r = true := by
  rw [visibleIn, Listing.mem_sort, List.mem_filter]

/-- The tables with a row put in. -/
def save (row : Row) (t : Tables) : Tables := { t with storages := Row.put row t.storages }

/-- The tables without the row of a storage. -/
def delete (id : Cell) (t : Tables) : Tables :=
  { t with storages := t.storages.filter fun r => !r.hasId id }

/-! ### The other tables -/

/-- The role of a user in a workspace, if he has one; null is none. -/
def role (workspaceId userId : Cell) (t : Tables) : Cell :=
  let membership := t.memberships.find? fun m =>
    m.has "workspaceId" workspaceId && m.has "userId" userId
  match membership.bind (Row.get? "role") with
  | some .null => none
  | c => c

/-- The databases that back up to a storage, each once. -/
def databasesOf (storageId : Cell) (t : Tables) : List Cell :=
  ((t.attachments.filter (Row.has "storageId" storageId)).map (Row.get? "databaseId")).eraseDupsBy
    Cell.same

/-- The tables with one more entry of the audit log. -/
def note (entry : Row) (t : Tables) : Tables := { t with audit := t.audit ++ [entry] }

/-! ### Storages that are saved, and storages that are deleted -/

/-- **What was saved is found**, over what was there before, and every other storage is found as
before. -/
theorem find?_save {row : Row} {id : Cell} (h : row.hasId id = true) (t : Tables) (other : Cell) :
    (t.save row).find? other =
      if id.same other then some ((t.find? id).elim row (·.update row)) else t.find? other :=
  Row.find?_put h t.storages other

/-- **What was deleted is gone**, and every other storage is found as before. -/
theorem find?_delete (id other : Cell) (t : Tables) :
    (t.delete id).find? other = if id.same other then none else t.find? other := by
  simp only [find?, delete, Row.find?, List.find?_filter]
  by_cases h : id.same other = true
  · rw [if_pos h, List.find?_eq_none]
    intro r _ hr
    simp only [Bool.not_eq_true', decide_eq_true_eq] at hr
    have hi : (r.get? "id").same id = true := by
      rw [Cell.same_comm, Cell.same_congr h, Cell.same_comm]
      exact hr.2
    rw [Row.hasId, Row.has, hi] at hr
    exact absurd hr.1 (by simp)
  · rw [if_neg h]
    congr 1
    funext r
    by_cases hr : r.hasId other = true
    · have hd : r.hasId id = false := by
        refine Bool.eq_false_iff.2 fun hi => h ?_
        rw [← Row.hasId_unique hi]
        exact hr
      simp [hr, hd]
    · simp [hr]

end Tables

end Depository
