import Depository.Database.Row
import Depository.Variant

/-!
# Storages

A storage is a named variant in a workspace; a system storage is shared by all workspaces.  Of its
row only the configuration is checked, and everything else is kept as it is found there.

* `Storage` — the record that the service works on;
* `Storage.ofRow` and `Storage.toRow` — from its row in the database, which keeps the configuration
  as JSON, and back;
* `Storage.testOutcome` — what is recorded of a connection test.
-/

namespace Depository

/-- A storage. -/
structure Storage where
  id : Cell
  workspaceId : Cell
  name : Cell
  isSystem : Cell
  /-- Why the last connection test failed; null if it did not. -/
  lastSaveError : Cell
  /-- Where it keeps backups; none if the backend is not known any more. -/
  variant : Option Variant

namespace Storage

/-- What is recorded of a connection test: null for a success, and else why it failed. -/
def testOutcome : Option String → Cell
  | none => some .null
  | some reason => .ofText reason

/-- The storage is shared by all workspaces. -/
def isShared (s : Storage) : Bool := s.isSystem.isTruthy

/-- The storage of a row.  The configuration is checked like a submitted one. -/
def ofRow (r : Row) : Except Failure Storage := do
  let variant ← Variant.parseNamed ((r.text? "type").getD "") (r.get? "config")
  return { id := r.get? "id", workspaceId := r.get? "workspaceId", name := r.get? "name"
           isSystem := r.get? "isSystem", lastSaveError := r.get? "lastSaveError", variant }

/-- The variant of a storage, whose backend must be known. -/
def knownVariant (s : Storage) : Except Failure Variant :=
  match s.variant with
  | some v => .ok v
  | none => .error (.malformed .noBackend)

/-- The row of a storage. -/
def toRow (s : Storage) : Except Failure Row := do
  let v ← s.knownVariant
  return ⟨[("id", s.id), ("workspaceId", s.workspaceId), ("name", s.name),
    ("type", .ofText v.typeName), ("isSystem", s.isSystem), ("lastSaveError", s.lastSaveError),
    ("config", some v.payload)]⟩

end Storage

end Depository
