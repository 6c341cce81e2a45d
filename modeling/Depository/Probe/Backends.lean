import Depository.HostKey
import Depository.Path
import Depository.Probe.Check
import Depository.Remotes
import Depository.Backend.Config
import Depository.Settings.Basic
import Depository.SmbPath

/-!
# The connection test of each backend

A test does the least that shows that backups can be kept: it looks at a bucket, a container or a
directory, or writes a small file.  What it opens it closes again.

* `Probe.check` — the test of a configuration with its secrets in clear.
-/

namespace Depository

namespace Probe

open Check (run ask request whenStopped noLonger unlessStopped ensure failWith freshId)

/-! ### Local disk -/

/-- Writes a file into the directory and removes it. -/
def checkLocal (directory : String) : Check Unit := do
  request (.makeDirectory directory)
  let id ← freshId
  let file := Path.join [directory, ".write-test-" ++ id]
  request (.writeFile file "ok" none)
  request (.remove (.ofText file) false)

/-! ### S3 -/

/-- The region of a bucket whose region is not given. -/
def defaultRegion : String := "us-east-1"

/-- A text that is not empty. -/
def filled? (s : String) : Option String := if s = "" then none else some s

/-- Looks at the bucket. -/
def checkS3 (c : S3Config) : Check Unit := do
  run (.s3Client ((filled? c.region).getD defaultRegion) (!c.virtualHosted) c.accessKey c.secretKey
    (filled? c.endpoint) c.skipTlsVerify)
  ensure (request (.s3Head c.bucket)) (run .s3Destroy)

/-! ### Azure Blob storage -/

/-- The address of an account whose address is not given. -/
def azureUrl (account : String) : String := "https://" ++ account ++ ".blob.core.windows.net"

/-- Makes a client by the chosen method. -/
def azureService (c : AzureConfig) : Check Unit :=
  match c.method with
  | .connectionString => run (.azureConnection c.connectionString)
  | .accountKey =>
    let endpoint := (filled? c.endpoint).getD (azureUrl c.accountName)
    run (.azureClient endpoint c.accountName c.accountKey)

/-- Looks whether the container exists. -/
def checkAzure (c : AzureConfig) : Check Unit := do
  azureService c
  run (.azureContainer c.container)
  let found ← ask .azureExists
  unless found.isTruthy do
    failWith ("container \"" ++ c.container ++ "\" does not exist")

/-! ### FTP -/

/-- Logs in and enters the directory, if one is given. -/
def checkFtp (timeout : Number) (c : FtpConfig) : Check Unit := do
  run (.ftpClient timeout)
  whenStopped .ftpClose
  ensure
    (do
      request (.ftpAccess c.host c.port c.username c.password c.useTls
        (c.useTls && c.skipTlsVerify))
      unless c.path = "" do request (.ftpEnter c.path))
    (do
      noLonger
      run .ftpClose)

/-! ### Shares -/

/-- The domain of a user whose domain is not given. -/
def defaultDomain : String := "WORKGROUP"

/-- Lists the directory.  The end of the session is arranged while the list is waited for, and is
left to that arrangement if it was called. -/
def checkNas (c : NasConfig) : Check Unit := do
  run (.smbClient ("\\\\" ++ c.host ++ "\\" ++ c.share) ((filled? c.domain).getD defaultDomain)
    c.username c.password c.port)
  whenStopped .smbDisconnect
  ensure (request (.smbList (SmbPath.ofPath c.path)))
    (do
      noLonger
      unlessStopped (run .smbDisconnect))

/-! ### SFTP -/

/-- The fingerprint that the host key must have, unless host keys are not verified. -/
def pinned? (c : SftpConfig) : Option String :=
  if c.skipHostKeyVerify then none else filled? c.fingerprint

/-- Looks whether the directory exists, if one is given. -/
def sftpDirectory (path : String) : Check Unit :=
  unless path = "" do
    match ← ask (.sftpExists path) with
    | .bool false => failWith ("path \"" ++ path ++ "\" does not exist")
    | _ => pure ()

/-- Opens a session and looks at the directory.  A session that was opened is ended, unless that was
done when the test was told to stop. -/
def checkSftp (timeout : Number) (c : SftpConfig) : Check Unit := do
  whenStopped .sftpEnd
  let opened ← (request (.sftpConnect c.host c.port c.username timeout (filled? c.password)
    (filled? c.privateKey) (pinned? c))).attempt
  match opened with
  | .error t =>
    noLonger
    Check.fail t
  | .ok () =>
    ensure (sftpDirectory c.path)
      (do
        noLonger
        unlessStopped (request .sftpEnd))

/-! ### Drives -/

/-- What is asked of a drive. -/
def driveAboutUrl : String := "https://www.googleapis.com/drive/v3/about?fields=user"

/-- The access token in an answer. -/
def accessToken : Json → Check Unit
  | .null =>
    failWith "Cannot destructure property 'token' of '(intermediate value)' as it is null."
  | v =>
    if (v.get? "token").any Json.isTruthy then pure ()
    else failWith "unable to obtain an access token"

/-- Gets an access token and asks about the drive. -/
def checkDrive (timeout : Number) (c : DriveConfig) : Check Unit := do
  match OAuth.Token.parse? c.token with
  | none => failWith "stored token is not valid OAuth token JSON"
  | some token =>
    run (.googleClient c.clientId c.clientSecret)
    run (.googleCredentials token.credentials)
    let answer ← ask .googleAccessToken
    accessToken answer
    request (.googleRequest driveAboutUrl timeout)

/-! ### Rclone -/

/-- What the paths of work directories begin with. -/
def workStem : String := "/tmp/rclone-test-"

/-- Who may read the configuration file: its owner. -/
def privateMode : Nat := 0o600

/-- The first remote of a configuration. -/
def firstRemote (content : String) : Check String :=
  match Remotes.list content with
  | .error fault => failWith fault.message
  | .ok names =>
    match names.head? with
    | none | some "" => failWith "config does not define any remote"
    | some name => pure name

/-- What is listed: a path of a remote, without slashes at its beginning. -/
def target (remote path : String) : String :=
  remote ++ ":" ++ String.ofList (path.toList.dropWhile (· == '/'))

/-- Lists the path with the program; its trouble is told in the words of the program. -/
def listRemote (program file target : String) (timeout : Number) : Check Unit := do
  match ← (request (.runProgram program
      ["lsf", target, "--config", file, "--max-depth", "1"] timeout)).attempt with
  | .ok () => pure ()
  | .error t => failWith t.programText

/-- How it is told that something is no path. -/
def noPath (received : String) : String :=
  "The \"path\" argument must be of type string. Received " ++ received

/-- Lists the path with the configuration in a file of a work directory. -/
def listIn (directory : Cell) (program remote : String) (timeout : Number) (c : RcloneConfig) :
    Check Unit :=
  match directory.text? with
  | none => failWith (noPath directory.received)
  | some directory => do
    let file := Path.join [directory, "rclone.conf"]
    request (.writeFile file c.content (some privateMode))
    listRemote program file (target remote c.remotePath) timeout

/-- Lists the path with the configuration in a work directory, which is removed. -/
def checkRclone (program : String) (timeout : Number) (c : RcloneConfig) : Check Unit := do
  let remote ← firstRemote c.content
  let directory ← ask (.makeWorkDirectory workStem)
  ensure (listIn (some directory) program remote timeout c)
    (request (.remove (some directory) true))

/-! ### All backends -/

/-- The connection test of a configuration with its secrets in clear.  `directory` is that of local
storages, and `limit` is the time that clients are told to wait for. -/
def check (s : Settings) (directory : String) (limit : Number) :
    (b : Backend) → b.Config → Check Unit
  | .localDisk, _ => checkLocal directory
  | .s3, c => checkS3 c
  | .nas, c => checkNas c
  | .azureBlob, c => checkAzure c
  | .ftp, c => checkFtp limit c
  | .sftp, c => checkSftp limit c
  | .googleDrive, c => checkDrive limit c
  | .rclone, c => checkRclone s.rcloneBinary limit c

end Probe

end Depository
