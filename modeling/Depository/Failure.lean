import Depository.Backend.Basic
import Depository.Cipher.Owner
import Depository.Ini.Document
import Depository.Schema.Issue

/-!
# Failures

Why an operation of the service fails.

* `Failure` — the causes; `Failure.message` — the wording;
* `Failure.category` — the class of a failure, and `Category.status?` — the status with which a
  failure of it is answered, if the caller is told the cause.
-/

namespace Depository

/-- What an actor would need permission for. -/
inductive PermissionReason where
  | manage
  | view
  | viewList
  | test
  | sourceWorkspace
  | targetWorkspace
  | localInCloud
  | workspaceMismatch
  | systemStorage
  deriving DecidableEq, Repr

namespace PermissionReason

/-- The code of a reason. -/
def code : PermissionReason → String
  | manage => "manage"
  | view => "view"
  | viewList => "view_list"
  | test => "test"
  | sourceWorkspace => "source_workspace"
  | targetWorkspace => "target_workspace"
  | localInCloud => "local_in_cloud"
  | workspaceMismatch => "workspace_mismatch"
  | systemStorage => "system_storage"

/-- The wording of a reason. -/
def message : PermissionReason → String
  | manage => "insufficient permissions to manage storage in this workspace"
  | view => "insufficient permissions to view storage in this workspace"
  | viewList => "insufficient permissions to view storages in this workspace"
  | test => "insufficient permissions to test storage in this workspace"
  | sourceWorkspace => "insufficient permissions to manage storage in source workspace"
  | targetWorkspace => "insufficient permissions to manage storage in target workspace"
  | localInCloud => "local storage can only be managed by administrators in cloud mode"
  | workspaceMismatch => "storage does not belong to this workspace"
  | systemStorage => "only administrators can manage system storages"

/-- All reasons. -/
def all : List PermissionReason :=
  [manage, view, viewList, test, sourceWorkspace, targetWorkspace, localInCloud, workspaceMismatch,
    systemStorage]

end PermissionReason

/-- What a storage shared by all workspaces does not allow. -/
inductive SystemConstraint where
  | cannotMakePrivate
  | cannotTransfer
  | blocksWorkspaceDeletion
  deriving DecidableEq, Repr

namespace SystemConstraint

/-- The code of a constraint. -/
def code : SystemConstraint → String
  | cannotMakePrivate => "cannot_make_private"
  | cannotTransfer => "cannot_transfer"
  | blocksWorkspaceDeletion => "blocks_workspace_deletion"

/-- The wording of a constraint. -/
def message : SystemConstraint → String
  | cannotMakePrivate => "system storage cannot be changed to non-system"
  | cannotTransfer => "system storage cannot be transferred between workspaces"
  | blocksWorkspaceDeletion =>
    "system storage cannot be deleted due to workspace deletion, " ++
      "please transfer or remove storage first"

/-- All constraints. -/
def all : List SystemConstraint := [cannotMakePrivate, cannotTransfer, blocksWorkspaceDeletion]

end SystemConstraint

/-- What the databases that back up to a storage do not allow. -/
inductive AttachmentConstraint where
  | deleteBlocked
  | transferBlocked
  | otherDatabasesAttached
  deriving DecidableEq, Repr

namespace AttachmentConstraint

/-- The code of a constraint. -/
def code : AttachmentConstraint → String
  | deleteBlocked => "delete_blocked"
  | transferBlocked => "transfer_blocked"
  | otherDatabasesAttached => "other_databases_attached"

/-- The wording of a constraint. -/
def message : AttachmentConstraint → String
  | deleteBlocked => "storage has attached databases and cannot be deleted"
  | transferBlocked => "storage has attached databases and cannot be transferred"
  | otherDatabasesAttached => "storage has other attached databases and cannot be transferred"

/-- All constraints. -/
def all : List AttachmentConstraint := [deleteBlocked, transferBlocked, otherDatabasesAttached]

end AttachmentConstraint

/-- Why a submitted value is refused. -/
inductive Invalid where
  /-- It does not have the form that it should have. -/
  | issues (list : List Schema.Issue)
  /-- The configuration of its backend is missing. -/
  | payloadMissing (backend : Backend)
  /-- It has no name. -/
  | nameMissing
  /-- A part of the configuration is empty that its backend needs. -/
  | partMissing (backend : Backend) (what : String)
  /-- The port of the configuration is no port. -/
  | portOutOfRange (backend : Backend)
  /-- The token of a drive is no token. -/
  | noToken
  /-- An rclone configuration has no remote. -/
  | noRemote
  deriving DecidableEq, Repr

/-- The wording of a refusal. -/
def Invalid.message : Invalid → String
  | issues list => "; ".intercalate (list.map Schema.Issue.text)
  | payloadMissing b => b.payloadKey ++ " is required for storage type " ++ b.name
  | nameMissing => "storage name is required"
  | partMissing b what => b.label ++ " " ++ what ++ " is required"
  | portOutOfRange b => b.label ++ " port must be between 1 and 65535"
  | noToken => "Google Drive token JSON must contain an access_token or a refresh_token"
  | noRemote => "Rclone config must define at least one remote with a type"

/-- A value has a form that the service cannot work with. -/
inductive Malformed where
  /-- A storage without a known backend. -/
  | noBackend
  /-- An operation that nobody asks for. -/
  | noActor
  /-- A document. -/
  | document (fault : Ini.Fault)
  /-- A value without a plain text that should be told. -/
  | noPlainText
  /-- A request that cannot be sent. -/
  | noRequest
  deriving DecidableEq, Repr

/-- The wording of a malformed value. -/
def Malformed.message : Malformed → String
  | noBackend => "Cannot read properties of undefined (reading 'type')"
  | noActor => "Cannot read properties of undefined (reading 'id')"
  | document fault => fault.message
  | noPlainText => Json.noPlainText
  | noRequest => "Request path contains unescaped characters"

/-- Why an operation fails. -/
inductive Failure where
  /-- The actor may not do it. -/
  | permission (reason : PermissionReason)
  /-- There is no storage of this id. -/
  | notFound (id : String)
  /-- The submitted value is refused. -/
  | invalid (cause : Invalid)
  /-- A system storage does not allow it. -/
  | systemStorage (constraint : SystemConstraint)
  /-- The attached databases do not allow it. -/
  | attachment (constraint : AttachmentConstraint)
  /-- The backend could not be reached, for a reason that it told. -/
  | connection (backend : Backend) (detail : String)
  /-- A field was not encrypted. -/
  | encryption
  /-- A field was not decrypted. -/
  | decryption
  /-- The caller is not known. -/
  | unauthenticated
  /-- A part that the service relies on failed with this message. -/
  | fault (message : String)
  /-- A value has a form that the service cannot work with. -/
  | malformed (cause : Malformed)
  deriving DecidableEq, Repr

namespace Failure

/-- The wording of a failure. -/
def message : Failure → String
  | permission reason => reason.message
  | notFound id => "Storage " ++ id ++ " not found"
  | invalid cause => cause.message
  | systemStorage constraint => constraint.message
  | attachment constraint => constraint.message
  | connection backend detail => backend.label ++ " connection failed: " ++ detail
  | encryption => "Failed to encrypt sensitive field"
  | decryption => "Failed to decrypt sensitive field"
  | unauthenticated => "Authentication required"
  | fault message => message
  | malformed cause => cause.message

/-- The failure of a submitted value with issues. -/
def ofIssues (list : List Schema.Issue) : Failure := invalid (.issues list)

/-- The failure when a field is not encrypted, which is told with the owner of the field. -/
def ofEncryption (owner : Cell) : Failure :=
  if owner.plainText?.isSome then encryption else malformed .noPlainText

/-- The failure when a field is not decrypted.  What the cipher finds is told with the owner. -/
def ofDecryption (owner : Cell) (fault : Field.DecryptionFault) : Failure :=
  if fault.message?.isNone || owner.plainText?.isSome then decryption else malformed .noPlainText

/-- The classes of failures. -/
inductive Category where
  | permission
  | notFound
  | invalid
  | systemStorage
  | attachment
  | connection
  | encryption
  | decryption
  | unauthenticated
  | fault
  | malformed
  /-- A number in a malformed value is beyond its range. -/
  | outOfRange
  deriving DecidableEq, Repr

/-- The class of a malformed value. -/
def malformedCategory : Malformed → Category
  | .document .badLength => .outOfRange
  | _ => .malformed

/-- The class of a failure. -/
def category : Failure → Category
  | permission _ => .permission
  | notFound _ => .notFound
  | invalid _ => .invalid
  | systemStorage _ => .systemStorage
  | attachment _ => .attachment
  | connection _ _ => .connection
  | encryption => .encryption
  | decryption => .decryption
  | unauthenticated => .unauthenticated
  | fault _ => .fault
  | malformed cause => malformedCategory cause

/-- The status with which a failure of a class is answered; none for classes whose cause is not told
to the caller. -/
def Category.status? : Category → Option Nat
  | permission => some 403
  | notFound => some 404
  | invalid => some 400
  | systemStorage => some 400
  | attachment => some 409
  | connection => some 400
  | encryption => some 500
  | decryption => some 500
  | unauthenticated => some 401
  | fault => none
  | malformed => none
  | outOfRange => none

end Failure

end Depository
