import Depository.Storage.View

/-!
# Submitted storages

A storage is submitted in the form in which it is viewed.  Without an id it is a new one.  Only the
configuration under the key of its backend counts.

* `Input.parse` — the submitted storage of a body;
* `parseWorkspaceQuery`, `parseTransfer` — the other two values that callers submit.
-/

namespace Depository

open Schema

/-- A submitted storage. -/
structure Input where
  id : Cell
  workspaceId : Cell
  name : Cell
  isSystem : Cell
  /-- Where it is to keep backups; none if there is no such backend. -/
  variant : Option Variant

namespace Input

/-- The name without the blanks at its ends; it must be a text. -/
def trimmedName (i : Input) : Except Failure String :=
  match i.name.text? with
  | some name => .ok (Text.trim name)
  | none => .error (.malformed .noPlainText)

/-- The variant, whose backend must be known. -/
def knownVariant (i : Input) : Except Failure Variant :=
  match i.variant with
  | some v => .ok v
  | none => .error (.malformed .noBackend)

/-- The parts of a body that do not depend on the backend. -/
structure Header where
  id : Option String
  workspaceId : String
  name : String
  backend : Backend
  isSystem : Bool
  deriving DecidableEq, Repr

/-- A UUID, which may be missing or null. -/
def idField : Reader (Option String) :=
  Reader.orElse none fun v => ((string.uuid .notUuid) v).map some

/-- A name, trimmed. -/
def nameField : Reader String := fun v => ((string.orElse "") v).map Text.trim

/-- Checks the header of a body. -/
def readHeader (o : Json) : Checked Header :=
  Header.mk
    <$> field o "id" idField
    <*> field o "workspaceId" ((string.orProblem (.missingNamed "workspaceId")).uuid .notUuid)
    <*> field o "name" nameField
    <*> field o "type" (option Backend.table true)
    <*> field o "isSystem" (boolean.orElse false)

/-- The submitted storage of a body, which may be missing. -/
def parse (body : Option Json) : Except Failure Input :=
  match object body with
  | .invalid issues => .error (.ofIssues issues)
  | .valid o =>
    match readHeader o with
    | .invalid issues => .error (.ofIssues issues)
    | .valid h => do
      let variant ← Variant.parse h.backend (o.get? h.backend.payloadKey)
      return { id := h.id.map .string, workspaceId := .ofText h.workspaceId, name := .ofText h.name
               isSystem := some (.bool h.isSystem), variant := some variant }

end Input

/-- The id of the workspace whose storages are asked for; an empty one counts as missing. -/
def parseWorkspaceQuery (value : Option Json) : Except Failure String :=
  let given := match value with
    | some (.string "") => none
    | v => v
  match (string.orProblem (.missingNamed "workspace_id")).uuid (.invalidNamed "workspace_id")
      given with
  | .valid id => .ok id
  | .invalid issues => .error (.ofIssues issues)

/-- The id of the workspace that a storage is to be transferred to. -/
def parseTransfer (body : Option Json) : Except Failure String :=
  match object body with
  | .invalid issues => .error (.ofIssues issues)
  | .valid o =>
    match field o "targetWorkspaceId"
        ((string.orProblem (.missingNamed "targetWorkspaceId")).uuid .notUuid) with
    | .valid id => .ok id
    | .invalid issues => .error (.ofIssues issues)

end Depository
