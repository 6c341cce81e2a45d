import Depository.Backend.Config
import Depository.Cipher.Field
import Depository.Failure
import Depository.OAuth.Token
import Depository.Remotes

/-!
# Rules of configurations

What a configuration needs before it is used.  A new configuration must bring its secrets; an update
may leave them out, since the present ones are kept.  Of the secrets of Azure Blob storage, that of
the chosen method is needed by an update too, which may have chosen another method.

A token and an rclone configuration are looked into when they are submitted in plain text; stored
ones were looked into then.

* `Backend.validate` — the rules of every backend.
-/

namespace Depository

namespace Backend

/-- Fails for a part that the backend needs and that is empty. -/
def need (b : Backend) (value what : String) : Except Failure Unit :=
  if value = "" then .error (.invalid (.partMissing b what)) else .ok ()

/-- Fails where both of two parts are empty of which the backend needs one. -/
def needEither (b : Backend) (value other what : String) : Except Failure Unit :=
  if value = "" ∧ other = "" then .error (.invalid (.partMissing b what)) else .ok ()

/-- Fails for a port that is none. -/
def needPort (b : Backend) (port : Int) : Except Failure Unit :=
  if 1 ≤ port ∧ port ≤ 65535 then .ok () else .error (.invalid (.portOutOfRange b))

/-- A secret submitted in plain text. -/
def isSubmitted (value : String) : Bool := value != "" && !Field.isMarked value

/-- The names of the remotes of an rclone configuration. -/
def remotesOf (content : String) : Except Failure (List String) :=
  match Remotes.list content with
  | .ok names => .ok names
  | .error fault => .error (.malformed (.document fault))

/-- The rules of a configuration, which is new where `isNew` holds. -/
def validate : (b : Backend) → b.Config → (isNew : Bool) → Except Failure Unit
  | localDisk, _, _ => .ok ()
  | s3, c, isNew => do
    need s3 (S3Config.bucket c) "bucket"
    if isNew then
      need s3 (S3Config.accessKey c) "access key"
      need s3 (S3Config.secretKey c) "secret key"
  | nas, c, isNew => do
    need nas (NasConfig.host c) "host"
    needPort nas (NasConfig.port c)
    need nas (NasConfig.share c) "share"
    need nas (NasConfig.username c) "username"
    if isNew then need nas (NasConfig.password c) "password"
  | azureBlob, c, _ => do
    need azureBlob (AzureConfig.container c) "container name"
    match AzureConfig.method c with
    | .connectionString => need azureBlob (AzureConfig.connectionString c) "connection string"
    | .accountKey =>
      need azureBlob (AzureConfig.accountName c) "account name"
      need azureBlob (AzureConfig.accountKey c) "account key"
  | ftp, c, isNew => do
    need ftp (FtpConfig.host c) "host"
    needPort ftp (FtpConfig.port c)
    need ftp (FtpConfig.username c) "username"
    if isNew then need ftp (FtpConfig.password c) "password"
  | sftp, c, isNew => do
    need sftp (SftpConfig.host c) "host"
    needPort sftp (SftpConfig.port c)
    need sftp (SftpConfig.username c) "username"
    if isNew then
      needEither sftp (SftpConfig.password c) (SftpConfig.privateKey c) "password or private key"
  | googleDrive, c, isNew => do
    need googleDrive (DriveConfig.clientId c) "client id"
    if isNew then
      need googleDrive (DriveConfig.clientSecret c) "client secret"
      need googleDrive (DriveConfig.token c) "token JSON"
    if isSubmitted (DriveConfig.token c) && (OAuth.Token.parse? (DriveConfig.token c)).isNone then
      .error (.invalid .noToken)
  | rclone, c, isNew => do
    if isNew then need rclone (RcloneConfig.content c) "config content"
    if isSubmitted (RcloneConfig.content c) then
      let names ← remotesOf (RcloneConfig.content c)
      if names.isEmpty then .error (.invalid .noRemote)

end Backend

end Depository
