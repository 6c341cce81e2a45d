import Depository.Json.Basic

/-!
# The layout of the database

The five tables of the database, with their columns, relations, indices and unique keys.

* `Table.all` — the tables, in the order in which the database is told of them;
* `Table.ofRecord?` — the table of a kind of record.
-/

namespace Depository

/-- The type of a column. -/
inductive ColumnType where
  | uuid
  /-- A text whose type is left to the database. -/
  | string
  /-- A text of at most `length` characters. -/
  | varchar (length : Nat)
  | text
  | boolean
  | json
  | timestamp
  /-- An instant with its offset. -/
  | zonedTimestamp
  deriving DecidableEq, Repr

namespace ColumnType

/-- The name of a type in the database; `string` has none of its own. -/
def name? : ColumnType → Option String
  | uuid => some "uuid"
  | string => none
  | varchar _ => some "varchar"
  | text => some "text"
  | boolean => some "boolean"
  | json => some "jsonb"
  | timestamp => some "timestamp"
  | zonedTimestamp => some "timestamptz"

end ColumnType

/-- What a column of instants keeps. -/
inductive ColumnRole where
  /-- When the row was made. -/
  | creation
  /-- When the row was last changed. -/
  | update
  deriving DecidableEq, Repr

/-- A column of a table. -/
structure Column where
  /-- The name in records. -/
  property : String
  /-- The name in the database. -/
  column : String := property
  type : ColumnType
  nullable : Bool := false
  isKey : Bool := false
  /-- The database gives a value of its own to new rows. -/
  generated : Bool := false
  default : Option Json := none
  role : Option ColumnRole := none

/-- What happens to a row when the row that it refers to is deleted. -/
inductive OnDelete where
  | cascade
  | setNull
  | restrict
  deriving DecidableEq, Repr

/-- The rule as the database names it. -/
def OnDelete.name : OnDelete → String
  | cascade => "CASCADE"
  | setNull => "SET NULL"
  | restrict => "RESTRICT"

/-- A reference of many rows of a table to one row of another. -/
structure Relation where
  property : String
  target : String
  joinColumns : List String
  nullable : Bool := true
  onDelete : OnDelete
  deriving DecidableEq, Repr

/-- A table. -/
structure Table where
  /-- The name of its kind of record. -/
  record : String
  name : String
  columns : List Column
  relations : List Relation := []
  indices : List (List String) := []
  uniques : List (List String) := []

namespace Column

/-- The key of a table whose rows get their ids from the database. -/
def generatedKey : Column :=
  { property := "id", type := .uuid, isKey := true, generated := true }

/-- The value that the database gives to instants. -/
def now : Json := .string "now()"

/-- The instant at which a row was made. -/
def creation (column : String) (type : ColumnType) : Column :=
  { property := "createdAt", column, type, default := some now, role := some .creation }

/-- The instant at which a row was last changed. -/
def lastUpdate (column : String) (type : ColumnType) : Column :=
  { property := "updatedAt", column, type, default := some now, role := some .update }

end Column

namespace Table

/-- The users of the service. -/
def users : Table where
  record := "User"
  name := "users"
  columns := [
    .generatedKey,
    { property := "email", type := .string },
    { property := "role", type := .varchar 20, default := some (.string "MEMBER") },
    .creation "created_at" .zonedTimestamp]
  uniques := [["email"]]

/-- The roles of users in workspaces. -/
def memberships : Table where
  record := "WorkspaceMembership"
  name := "workspace_memberships"
  columns := [
    .generatedKey,
    { property := "workspaceId", column := "workspace_id", type := .uuid },
    { property := "userId", column := "user_id", type := .uuid },
    { property := "role", type := .varchar 20 },
    .creation "created_at" .zonedTimestamp]
  relations := [
    { property := "user", target := "User", joinColumns := ["user_id"], onDelete := .cascade }]
  uniques := [["workspaceId", "userId"]]

/-- The audit log. -/
def auditLog : Table where
  record := "AuditLog"
  name := "audit_logs"
  columns := [
    .generatedKey,
    { property := "userId", type := .uuid, nullable := true },
    { property := "workspaceId", type := .uuid, nullable := true },
    { property := "message", type := .text },
    { property := "timestamp", type := .timestamp, default := some Column.now,
      role := some .creation }]
  relations := [
    { property := "user", target := "User", joinColumns := ["userId"], onDelete := .setNull }]
  indices := [["workspaceId"]]

/-- The storages.  Their ids are given before they are stored, since secrets are bound to them. -/
def storages : Table where
  record := "StorageEntity"
  name := "storages"
  columns := [
    { property := "id", type := .uuid, isKey := true },
    { property := "workspaceId", column := "workspace_id", type := .uuid },
    { property := "name", type := .string },
    { property := "type", type := .varchar 32 },
    { property := "isSystem", column := "is_system", type := .boolean,
      default := some (.bool false) },
    { property := "lastSaveError", column := "last_save_error", type := .text, nullable := true },
    { property := "config", type := .json, default := some (.string "'\x7b\x7d'") },
    .creation "created_at" .zonedTimestamp,
    .lastUpdate "updated_at" .zonedTimestamp]
  indices := [["workspaceId"], ["isSystem"]]

/-- Which databases back up to which storages. -/
def backupConfigs : Table where
  record := "BackupConfig"
  name := "backup_configs"
  columns := [
    .generatedKey,
    { property := "databaseId", column := "database_id", type := .uuid },
    { property := "storageId", column := "storage_id", type := .uuid, nullable := true },
    { property := "isBackupsEnabled", column := "is_backups_enabled", type := .boolean,
      default := some (.bool false) },
    .creation "created_at" .timestamp,
    .lastUpdate "updated_at" .timestamp]
  relations := [
    { property := "storage", target := "StorageEntity", joinColumns := ["storage_id"],
      onDelete := .restrict }]
  uniques := [["databaseId"]]

/-- All tables. -/
def all : List Table := [users, memberships, auditLog, storages, backupConfigs]

/-- The table of a kind of record. -/
def ofRecord? (record : String) : Option Table := all.find? (·.record == record)

end Table

end Depository
