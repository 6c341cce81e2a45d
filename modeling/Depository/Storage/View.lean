import Depository.Storage.Basic

/-!
# Views of storages

What a caller sees of a storage: its record and, under the key of its backend, its configuration.
The keys of the other backends are null.

* `View.of`, `View.ofVariant` — the view of a storage with a configuration as it is, or with none at
  all;
* `View.ofStorage` — the view with empty secrets;
* `View.toJson` — the view as it is sent.
-/

namespace Depository

/-- What a view shows of the configuration. -/
inductive Payload where
  /-- Nothing. -/
  | hidden
  /-- The configuration of a backend. -/
  | shown (backend : Backend) (config : Cell)
  /-- Nothing, not even the keys, since the backend is not known. -/
  | absent

/-- The view of a storage. -/
structure View where
  id : Cell
  workspaceId : Cell
  name : Cell
  type : Cell
  isSystem : Cell
  lastSaveError : Cell
  payload : Payload

namespace Payload

/-- The payload of a configuration of the named backend. -/
def of (type config : Cell) (hideAll : Bool) : Payload :=
  if hideAll then hidden
  else
    match type.text?.bind Backend.ofName? with
    | some b => shown b config
    | none => absent

/-- The keys of all backends, with the configuration under that of its backend. -/
def members : Payload → Members Json
  | hidden => Backend.all.map fun b => (b.payloadKey, .null)
  | shown backend config =>
    Backend.all.flatMap fun b => (if b = backend then config else some .null).member b.payloadKey
  | absent => []

end Payload

namespace View

/-- The view of a storage of the named backend, which shows the configuration unless `hideAll`
holds. -/
def of (s : Storage) (type config : Cell) (hideAll : Bool) : View where
  id := s.id
  workspaceId := s.workspaceId
  name := s.name
  type := type
  isSystem := s.isSystem
  lastSaveError := s.lastSaveError
  payload := .of type config hideAll

/-- The view of a storage with a variant. -/
def ofVariant (s : Storage) (v : Variant) (hideAll : Bool) : View :=
  of s (.ofText v.typeName) (some v.payload) hideAll

/-- The view of a storage with empty secrets.  Where `hideAll` holds it shows no configuration. -/
def ofStorage (s : Storage) (hideAll : Bool) : Except Failure View := do
  let v ← s.knownVariant
  return ofVariant s v.hide hideAll

/-- The view as it is sent. -/
def toJson (v : View) : Json :=
  .object (v.id.member "id" ++ v.workspaceId.member "workspaceId" ++ v.name.member "name" ++
    v.type.member "type" ++ v.isSystem.member "isSystem" ++
    v.lastSaveError.member "lastSaveError" ++ v.payload.members)

end View

end Depository
