import Depository.Json.Cell
import Depository.OAuth.Token

/-!
# Calls of a connection test

Everything that a connection test does outside of itself is a call: to a client of a backend, to the
file system or to a program.  Some calls are answered at once, and others are waited for.

* `Call` — the calls with what they are given;
* `Method` — the kinds of calls, with `Method.name` and, for those that are waited for,
  `Method.isAwaited`;
* `Trouble` — why a call fails.
-/

namespace Depository

/-- A call with what it is given. -/
inductive Call where
  /-- Makes a client of an S3 service. -/
  | s3Client (region : String) (pathStyle : Bool) (accessKey secretKey : String)
      (endpoint : Option String) (trustAny : Bool)
  /-- Asks for the head of a bucket. -/
  | s3Head (bucket : String)
  | s3Destroy
  /-- Makes a client of Azure Blob storage with the key of an account. -/
  | azureClient (url account key : String)
  /-- Makes one with a connection string. -/
  | azureConnection (connection : String)
  /-- Makes a client of a container. -/
  | azureContainer (name : String)
  | azureExists
  /-- Makes a client of an FTP server. -/
  | ftpClient (timeout : Number)
  | ftpAccess (host : String) (port : Int) (user password : String) (secure trustAny : Bool)
  | ftpEnter (path : String)
  | ftpClose
  /-- Makes a client of a share. -/
  | smbClient (share domain username password : String) (port : Int)
  | smbList (path : String)
  | smbDisconnect
  /-- Opens a session; a host key is accepted if it has the pinned fingerprint, where one is
  given. -/
  | sftpConnect (host : String) (port : Int) (username : String) (readyTimeout : Number)
      (password privateKey : Option String) (pinned : Option String)
  | sftpExists (path : String)
  | sftpEnd
  /-- Makes a client of an OAuth application. -/
  | googleClient (clientId clientSecret : String)
  | googleCredentials (credentials : OAuth.Credentials)
  | googleAccessToken
  | googleRequest (url : String) (timeout : Number)
  /-- Makes a directory and those above it. -/
  | makeDirectory (path : String)
  | writeFile (path content : String) (mode : Option Nat)
  /-- Removes a file or, where `isTree` holds, a directory with all that is in it.  What is given as
  the path may be no text. -/
  | remove (path : Cell) (isTree : Bool)
  /-- Makes a new directory whose path begins like this. -/
  | makeWorkDirectory (stem : String)
  | runProgram (program : String) (arguments : List String) (timeout : Number)

/-- A kind of calls. -/
inductive Method where
  | s3Client | s3Head | s3Destroy
  | azureClient | azureConnection | azureContainer | azureExists
  | ftpClient | ftpAccess | ftpEnter | ftpClose
  | smbClient | smbList | smbDisconnect
  | sftpConnect | sftpExists | sftpEnd
  | googleClient | googleCredentials | googleAccessToken | googleRequest
  | makeDirectory | writeFile | remove | makeWorkDirectory | runProgram
  deriving DecidableEq, Repr

/-- The kind of a call. -/
def Call.method : Call → Method
  | s3Client .. => .s3Client
  | s3Head .. => .s3Head
  | s3Destroy => .s3Destroy
  | azureClient .. => .azureClient
  | azureConnection .. => .azureConnection
  | azureContainer .. => .azureContainer
  | azureExists => .azureExists
  | ftpClient .. => .ftpClient
  | ftpAccess .. => .ftpAccess
  | ftpEnter .. => .ftpEnter
  | ftpClose => .ftpClose
  | smbClient .. => .smbClient
  | smbList .. => .smbList
  | smbDisconnect => .smbDisconnect
  | sftpConnect .. => .sftpConnect
  | sftpExists .. => .sftpExists
  | sftpEnd => .sftpEnd
  | googleClient .. => .googleClient
  | googleCredentials .. => .googleCredentials
  | googleAccessToken => .googleAccessToken
  | googleRequest .. => .googleRequest
  | makeDirectory .. => .makeDirectory
  | writeFile .. => .writeFile
  | remove .. => .remove
  | makeWorkDirectory .. => .makeWorkDirectory
  | runProgram .. => .runProgram

/-- The name of a kind of calls: what is called, and what it is asked for. -/
def Method.name : Method → String
  | s3Client => "s3.client"
  | s3Head => "s3.send"
  | s3Destroy => "s3.destroy"
  | azureClient => "azure.client"
  | azureConnection => "azure.fromConnectionString"
  | azureContainer => "azure.getContainerClient"
  | azureExists => "azure.exists"
  | ftpClient => "ftp.client"
  | ftpAccess => "ftp.access"
  | ftpEnter => "ftp.cd"
  | ftpClose => "ftp.close"
  | smbClient => "smb.client"
  | smbList => "smb.readdir"
  | smbDisconnect => "smb.disconnect"
  | sftpConnect => "sftp.connect"
  | sftpExists => "sftp.exists"
  | sftpEnd => "sftp.end"
  | googleClient => "google.client"
  | googleCredentials => "google.setCredentials"
  | googleAccessToken => "google.getAccessToken"
  | googleRequest => "google.request"
  | makeDirectory => "fs.mkdir"
  | writeFile => "fs.writeFile"
  | remove => "fs.rm"
  | makeWorkDirectory => "fs.mkdtemp"
  | runProgram => "rclone.exec"

/-- All kinds of calls. -/
def Method.all : List Method :=
  [s3Client, s3Head, s3Destroy, azureClient, azureConnection, azureContainer, azureExists,
    ftpClient, ftpAccess, ftpEnter, ftpClose, smbClient, smbList, smbDisconnect, sftpConnect,
    sftpExists, sftpEnd, googleClient, googleCredentials, googleAccessToken, googleRequest,
    makeDirectory, writeFile, remove, makeWorkDirectory, runProgram]

theorem Method.mem_all (m : Method) : m ∈ all := by cases m <;> decide

/-- The kind of calls of a name. -/
def Method.ofName? (name : String) : Option Method := all.find? (Method.name · == name)

/-- The outcome of a call of this kind comes later; the others are answered at once. -/
def Method.isAwaited : Method → Bool
  | .s3Client | .s3Destroy | .azureClient | .azureConnection | .azureContainer | .ftpClient
  | .ftpClose | .smbClient | .smbDisconnect | .googleClient | .googleCredentials => false
  | .s3Head | .azureExists | .ftpAccess | .ftpEnter | .smbList | .sftpConnect | .sftpExists
  | .sftpEnd | .googleAccessToken | .googleRequest | .makeDirectory | .writeFile | .remove
  | .makeWorkDirectory | .runProgram => true

/-- Why a call fails. -/
inductive Trouble where
  /-- An error with its message and, for a program, with what it wrote to its error output. -/
  | error (message : String) (output : Option String)
  /-- A value that is no error. -/
  | value (value : Json)

namespace Trouble

/-- An error with a message. -/
def ofMessage (message : String) : Trouble := error message none

/-- How trouble is told; none if it is a value without a plain text. -/
def text? : Trouble → Option String
  | error message _ => some message
  | value v => v.plainText?

/-- How the trouble of a program is told: by its error output, without the blanks at the ends, if
there is any. -/
def programText : Trouble → String
  | error message (some output) =>
    let told := Text.trim output
    if told = "" then message else told
  | error message none => message
  | value v => v.plainText?.getD Json.noPlainText

end Trouble

end Depository
