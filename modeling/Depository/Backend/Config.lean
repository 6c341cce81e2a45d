import Depository.Backend.Basic
import Depository.Schema.Reader

/-!
# Configurations of backends

Each backend has a configuration of its own form.  A submitted configuration may leave out any field
or give null for it; texts are trimmed, except secrets, and unknown fields are dropped.

* `Backend.Config` — the type of configurations of a backend;
* `Backend.readConfig` — checks a submitted configuration;
* `Backend.writeConfig` — a configuration as it is stored and shown.
-/

namespace Depository

open Schema

/-! ### Kinds of fields -/

namespace Backend

/-- A text without the blanks at its ends. -/
def textField : Reader String :=
  Reader.orElse "" fun v => (string v).map Text.trim

/-- A secret, which is taken as it is. -/
def secretField : Reader String := string.orElse ""

/-- A switch. -/
def flagField : Reader Bool := boolean.orElse false

/-- A port with its default. -/
def portField (default : Int) : Reader Int := integer.orElse default

end Backend

open Backend (textField secretField flagField portField)

/-! ### The configurations -/

/-- Local disk has nothing to configure. -/
structure LocalConfig where
  deriving DecidableEq, Repr

/-- A bucket of an S3 service. -/
structure S3Config where
  bucket : String
  region : String
  accessKey : String
  secretKey : String
  endpoint : String
  keyPrefix : String
  /-- The bucket is named in the host name and not in the path. -/
  virtualHosted : Bool
  skipTlsVerify : Bool
  deriving DecidableEq, Repr

/-- A share of a file server. -/
structure NasConfig where
  host : String
  port : Int
  share : String
  username : String
  password : String
  useTls : Bool
  domain : String
  path : String
  deriving DecidableEq, Repr

/-- How a client of Azure Blob storage shows who it is. -/
inductive AzureMethod where
  | connectionString
  | accountKey
  deriving DecidableEq, Repr

/-- A container of Azure Blob storage. -/
structure AzureConfig where
  method : AzureMethod
  connectionString : String
  accountName : String
  accountKey : String
  container : String
  endpoint : String
  blobPrefix : String
  deriving DecidableEq, Repr

/-- A directory of an FTP server. -/
structure FtpConfig where
  host : String
  port : Int
  username : String
  password : String
  useTls : Bool
  skipTlsVerify : Bool
  path : String
  deriving DecidableEq, Repr

/-- A directory of an SFTP server. -/
structure SftpConfig where
  host : String
  port : Int
  username : String
  password : String
  privateKey : String
  skipHostKeyVerify : Bool
  fingerprint : String
  path : String
  deriving DecidableEq, Repr

/-- A drive, reached with an OAuth token. -/
structure DriveConfig where
  clientId : String
  clientSecret : String
  /-- The token as JSON text. -/
  token : String
  deriving DecidableEq, Repr

/-- A remote of an rclone configuration. -/
structure RcloneConfig where
  content : String
  remotePath : String
  deriving DecidableEq, Repr

/-! ### Reading and writing -/

/-- The name of a method. -/
def AzureMethod.name : AzureMethod → String
  | connectionString => "CONNECTION_STRING"
  | accountKey => "ACCOUNT_KEY"

/-- The methods by their names. -/
def AzureMethod.table : List (String × AzureMethod) :=
  [connectionString, accountKey].map fun m => (m.name, m)

/-- Checks a configuration of S3. -/
def S3Config.read (o : Json) : Checked S3Config :=
  S3Config.mk
    <$> field o "s3Bucket" textField
    <*> field o "s3Region" textField
    <*> field o "s3AccessKey" secretField
    <*> field o "s3SecretKey" secretField
    <*> field o "s3Endpoint" textField
    <*> field o "s3Prefix" textField
    <*> field o "s3UseVirtualHostedStyle" flagField
    <*> field o "skipTLSVerify" flagField

/-- The members of a configuration of S3. -/
def S3Config.members (c : S3Config) : Members Json :=
  [("s3Bucket", .string c.bucket), ("s3Region", .string c.region),
    ("s3AccessKey", .string c.accessKey), ("s3SecretKey", .string c.secretKey),
    ("s3Endpoint", .string c.endpoint), ("s3Prefix", .string c.keyPrefix),
    ("s3UseVirtualHostedStyle", .bool c.virtualHosted), ("skipTLSVerify", .bool c.skipTlsVerify)]

/-- Checks a configuration of a share. -/
def NasConfig.read (o : Json) : Checked NasConfig :=
  NasConfig.mk
    <$> field o "host" textField
    <*> field o "port" (portField 445)
    <*> field o "share" textField
    <*> field o "username" textField
    <*> field o "password" secretField
    <*> field o "useSsl" flagField
    <*> field o "domain" textField
    <*> field o "path" textField

/-- The members of a configuration of a share. -/
def NasConfig.members (c : NasConfig) : Members Json :=
  [("host", .string c.host), ("port", .number (.integer c.port)), ("share", .string c.share),
    ("username", .string c.username), ("password", .string c.password), ("useSsl", .bool c.useTls),
    ("domain", .string c.domain), ("path", .string c.path)]

/-- Checks a configuration of Azure Blob storage. -/
def AzureConfig.read (o : Json) : Checked AzureConfig :=
  AzureConfig.mk
    <$> field o "authMethod" ((option AzureMethod.table true).orElse .accountKey)
    <*> field o "connectionString" secretField
    <*> field o "accountName" textField
    <*> field o "accountKey" secretField
    <*> field o "containerName" textField
    <*> field o "endpoint" textField
    <*> field o "prefix" textField

/-- The members of a configuration of Azure Blob storage. -/
def AzureConfig.members (c : AzureConfig) : Members Json :=
  [("authMethod", .string c.method.name), ("connectionString", .string c.connectionString),
    ("accountName", .string c.accountName), ("accountKey", .string c.accountKey),
    ("containerName", .string c.container), ("endpoint", .string c.endpoint),
    ("prefix", .string c.blobPrefix)]

/-- Checks a configuration of FTP. -/
def FtpConfig.read (o : Json) : Checked FtpConfig :=
  FtpConfig.mk
    <$> field o "host" textField
    <*> field o "port" (portField 21)
    <*> field o "username" textField
    <*> field o "password" secretField
    <*> field o "useSsl" flagField
    <*> field o "skipTlsVerify" flagField
    <*> field o "path" textField

/-- The members of a configuration of FTP. -/
def FtpConfig.members (c : FtpConfig) : Members Json :=
  [("host", .string c.host), ("port", .number (.integer c.port)),
    ("username", .string c.username), ("password", .string c.password), ("useSsl", .bool c.useTls),
    ("skipTlsVerify", .bool c.skipTlsVerify), ("path", .string c.path)]

/-- Checks a configuration of SFTP. -/
def SftpConfig.read (o : Json) : Checked SftpConfig :=
  SftpConfig.mk
    <$> field o "host" textField
    <*> field o "port" (portField 22)
    <*> field o "username" textField
    <*> field o "password" secretField
    <*> field o "privateKey" secretField
    <*> field o "skipHostKeyVerify" flagField
    <*> field o "hostKeyFingerprint" textField
    <*> field o "path" textField

/-- The members of a configuration of SFTP. -/
def SftpConfig.members (c : SftpConfig) : Members Json :=
  [("host", .string c.host), ("port", .number (.integer c.port)),
    ("username", .string c.username), ("password", .string c.password),
    ("privateKey", .string c.privateKey), ("skipHostKeyVerify", .bool c.skipHostKeyVerify),
    ("hostKeyFingerprint", .string c.fingerprint), ("path", .string c.path)]

/-- Checks a configuration of a drive. -/
def DriveConfig.read (o : Json) : Checked DriveConfig :=
  DriveConfig.mk
    <$> field o "clientId" textField
    <*> field o "clientSecret" secretField
    <*> field o "tokenJson" secretField

/-- The members of a configuration of a drive. -/
def DriveConfig.members (c : DriveConfig) : Members Json :=
  [("clientId", .string c.clientId), ("clientSecret", .string c.clientSecret),
    ("tokenJson", .string c.token)]

/-- Checks a configuration of rclone. -/
def RcloneConfig.read (o : Json) : Checked RcloneConfig :=
  RcloneConfig.mk
    <$> field o "configContent" secretField
    <*> field o "remotePath" textField

/-- The members of a configuration of rclone. -/
def RcloneConfig.members (c : RcloneConfig) : Members Json :=
  [("configContent", .string c.content), ("remotePath", .string c.remotePath)]

namespace Backend

/-- The configurations of a backend. -/
@[reducible] def Config : Backend → Type
  | localDisk => LocalConfig
  | s3 => S3Config
  | nas => NasConfig
  | azureBlob => AzureConfig
  | ftp => FtpConfig
  | sftp => SftpConfig
  | googleDrive => DriveConfig
  | rclone => RcloneConfig

/-- Checks the members of a submitted configuration. -/
def readMembers : (b : Backend) → Json → Checked b.Config
  | localDisk, _ => .valid {}
  | s3, o => S3Config.read o
  | nas, o => NasConfig.read o
  | azureBlob, o => AzureConfig.read o
  | ftp, o => FtpConfig.read o
  | sftp, o => SftpConfig.read o
  | googleDrive, o => DriveConfig.read o
  | rclone, o => RcloneConfig.read o

/-- Checks a submitted configuration, which must be an object. -/
def readConfig (b : Backend) (v : Json) : Checked b.Config :=
  match object (some v) with
  | .valid o => b.readMembers o
  | .invalid issues => .invalid issues

/-- The members of a configuration. -/
def configMembers : (b : Backend) → b.Config → Members Json
  | localDisk, _ => []
  | s3, c => S3Config.members c
  | nas, c => NasConfig.members c
  | azureBlob, c => AzureConfig.members c
  | ftp, c => FtpConfig.members c
  | sftp, c => SftpConfig.members c
  | googleDrive, c => DriveConfig.members c
  | rclone, c => RcloneConfig.members c

/-- A configuration as it is stored and shown. -/
def writeConfig (b : Backend) (c : b.Config) : Json := .object (b.configMembers c)

end Backend

end Depository
