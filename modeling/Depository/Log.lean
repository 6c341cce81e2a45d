import Depository.Failure

/-!
# The log

A line of the log has a level, the part of the service that wrote it, and a text.  Every line that
the service writes is worded here.
-/

namespace Depository

/-- The importance of a line. -/
inductive LogLevel where
  | debug
  | info
  | warning
  | error
  deriving DecidableEq, Repr

/-- The part of the service that writes a line. -/
inductive LogSource where
  | storages
  | audit
  | fieldCipher
  | probe (backend : Backend)
  deriving DecidableEq, Repr

/-- A line of the log. -/
structure LogLine where
  level : LogLevel
  source : LogSource
  text : String
  deriving DecidableEq, Repr

namespace LogLine

/-- A field was not encrypted; that is written where its owner can be told. -/
def encryptionFailed? (owner : Cell) (fault : Field.EncryptionFault) : Option LogLine :=
  owner.plainText?.map fun entity =>
    ⟨.error, .fieldCipher, "Field encryption failed for entity " ++ entity ++ ": " ++ fault.message⟩

/-- A field was not decrypted; only what the cipher finds is written, where the owner of the field
can be told. -/
def decryptionFailed? (owner : Cell) (fault : Field.DecryptionFault) : Option LogLine := do
  let message ← fault.message?
  let entity ← owner.plainText?
  return ⟨.error, .fieldCipher, "Field decryption failed for entity " ++ entity ++ ": " ++ message⟩

/-- A connection test failed. -/
def probeFailed (b : Backend) (detail : String) : LogLine :=
  ⟨.warning, .probe b, b.label ++ " connection test failed: " ++ detail⟩

/-- The end of a cancelled session failed. -/
def releaseFailed (b : Backend) (detail : String) : LogLine :=
  ⟨.debug, .probe b, b.label ++ " session close after cancel failed: " ++ detail⟩

/-- An audit entry was not written. -/
def auditFailed (detail : String) : LogLine :=
  ⟨.error, .audit, "Failed to create audit log: " ++ detail⟩

/-- An operation goes on without its audit entry. -/
def auditMissed (entry detail : String) : LogLine :=
  ⟨.error, .storages, "Audit entry \"" ++ entry ++ "\" was not recorded: " ++ detail⟩

/-- A storage was created. -/
def created (typeName id workspaceId : String) : LogLine :=
  ⟨.info, .storages, "Created " ++ typeName ++ " storage " ++ id ++ " in workspace " ++ workspaceId⟩

/-- A storage was updated. -/
def updated (typeName id workspaceId : String) : LogLine :=
  ⟨.info, .storages, "Updated " ++ typeName ++ " storage " ++ id ++ " in workspace " ++ workspaceId⟩

/-- A storage was deleted. -/
def deleted (id workspaceId : String) : LogLine :=
  ⟨.info, .storages, "Deleted storage " ++ id ++ " from workspace " ++ workspaceId⟩

/-- A storage was transferred. -/
def transferred (id source target : String) : LogLine :=
  ⟨.info, .storages,
    "Transferred storage " ++ id ++ " from workspace " ++ source ++ " to " ++ target⟩

/-- The storages of a workspace were removed. -/
def removed (count : Nat) (workspaceId : String) : LogLine :=
  ⟨.info, .storages,
    "Removed " ++ toString count ++ " storage(s) of workspace " ++ workspaceId⟩

/-- The connection test of a stored storage failed. -/
def testFailed (id detail : String) : LogLine :=
  ⟨.warning, .storages, "Connection test failed for storage " ++ id ++ ": " ++ detail⟩

/-- The outcome of a connection test was not recorded. -/
def testNotRecorded (id detail : String) : LogLine :=
  ⟨.error, .storages,
    "Could not record connection test result for storage " ++ id ++ ": " ++ detail⟩

end LogLine

end Depository
