/-!
# Backends

The kinds of places that backups are stored in, with the names that they have in records, in
submitted values and in messages.
-/

namespace Depository

/-- A kind of place to store backups in. -/
inductive Backend where
  | localDisk
  | s3
  | nas
  | azureBlob
  | ftp
  | sftp
  | googleDrive
  | rclone
  deriving DecidableEq, Repr

namespace Backend

/-- All backends. -/
def all : List Backend := [localDisk, s3, nas, azureBlob, ftp, sftp, googleDrive, rclone]

/-- The name in records and submitted values. -/
def name : Backend → String
  | localDisk => "LOCAL"
  | s3 => "S3"
  | nas => "NAS"
  | azureBlob => "AZURE_BLOB"
  | ftp => "FTP"
  | sftp => "SFTP"
  | googleDrive => "GOOGLE_DRIVE"
  | rclone => "RCLONE"

/-- The backends by their names. -/
def table : List (String × Backend) := all.map fun b => (b.name, b)

/-- The backend of a name. -/
def ofName? (s : String) : Option Backend := table.lookup s

/-- The key under which its configuration is submitted and shown. -/
def payloadKey : Backend → String
  | localDisk => "localStorage"
  | s3 => "s3Storage"
  | nas => "nasStorage"
  | azureBlob => "azureBlobStorage"
  | ftp => "ftpStorage"
  | sftp => "sftpStorage"
  | googleDrive => "googleDriveStorage"
  | rclone => "rcloneStorage"

/-- The name in messages. -/
def label : Backend → String
  | localDisk => "Local storage"
  | s3 => "S3"
  | nas => "NAS"
  | azureBlob => "Azure Blob"
  | ftp => "FTP"
  | sftp => "SFTP"
  | googleDrive => "Google Drive"
  | rclone => "Rclone"

theorem mem_all (b : Backend) : b ∈ all := by cases b <;> decide

@[simp] theorem ofName?_name (b : Backend) : ofName? b.name = some b := by cases b <;> decide

end Backend

end Depository
