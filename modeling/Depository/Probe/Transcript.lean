import Depository.HostKey
import Depository.Probe.Call

/-!
# Transcripts of calls

A call is written down as its name and what it is given.  What is not given is left out.

* `Call.arguments` — what a call is given, as JSON;
* `Call.transcript` — the call with its name.

A session that accepts host keys by their fingerprint is written down with its verdict on each of
the keys that it might meet.
-/

namespace Depository

namespace Call

/-- An object with the members that are given. -/
def given (ms : List (String × Cell)) : Json := .object (ms.flatMap fun m => m.2.member m.1)

/-- A number as a value. -/
def whole (n : Int) : Cell := some (.number (.integer n))

/-- A truth value as a value. -/
def flag (b : Bool) : Cell := some (.bool b)

/-- The settings of a connection that takes any certificate, where it does. -/
def lenient (trustAny : Bool) (settings : Members Json) : Cell :=
  if trustAny then some (.object (settings ++ [("rejectUnauthorized", .bool false)])) else none

/-- The verdict on each key of a session with a pinned fingerprint. -/
def verdicts (hostKeys : List Bytes) (pinned : String) : Json :=
  .array (hostKeys.map fun key => .bool (HostKey.accepts pinned key))

/-- What a call is given. -/
def arguments (hostKeys : List Bytes) : Call → List Json
  | .s3Client region pathStyle accessKey secretKey endpoint trustAny =>
    [given [("region", .ofText region), ("forcePathStyle", flag pathStyle),
      ("credentials", some (given [("accessKeyId", .ofText accessKey),
        ("secretAccessKey", .ofText secretKey)])),
      ("maxAttempts", whole 1), ("endpoint", endpoint.map .string),
      ("requestHandler", lenient trustAny [("httpsAgent", .bool true)])]]
  | .s3Head bucket => [.string "HeadBucketCommand", given [("Bucket", .ofText bucket)]]
  | .azureClient url account key => [.string url, .string account, .string key]
  | .azureConnection connection => [.string connection]
  | .azureContainer name => [.string name]
  | .ftpClient timeout => [.number timeout]
  | .ftpAccess host port user password secure trustAny =>
    [given [("host", .ofText host), ("port", whole port), ("user", .ofText user),
      ("password", .ofText password), ("secure", flag secure),
      ("secureOptions", lenient trustAny [])]]
  | .ftpEnter path | .smbList path | .sftpExists path => [.string path]
  | .smbClient share domain username password port =>
    [given [("share", .ofText share), ("domain", .ofText domain), ("username", .ofText username),
      ("password", .ofText password), ("port", whole port), ("autoCloseTimeout", whole 0)]]
  | .sftpConnect host port username readyTimeout password privateKey pinned =>
    [given [("host", .ofText host), ("port", whole port), ("username", .ofText username),
      ("readyTimeout", some (.number readyTimeout)), ("password", password.map .string),
      ("privateKey", privateKey.map .string), ("hostVerifier", pinned.map (verdicts hostKeys))]]
  | .googleClient clientId clientSecret =>
    [given [("clientId", .ofText clientId), ("clientSecret", .ofText clientSecret)]]
  | .googleCredentials credentials => [credentials.toJson]
  | .googleRequest url timeout =>
    [given [("url", .ofText url), ("timeout", some (.number timeout))]]
  | .makeDirectory path => [.string path, given [("recursive", flag true)]]
  | .writeFile path content mode =>
    [.string path, .string content] ++ (mode.map fun m => given [("mode", whole m)]).toList
  | .remove path isTree =>
    [path.orNull,
      given [("recursive", if isTree then flag true else none), ("force", flag true)]]
  | .makeWorkDirectory stem => [.string stem]
  | .runProgram program arguments timeout =>
    [.string program, .array (arguments.map .string), given [("timeout", some (.number timeout))]]
  | .s3Destroy | .azureExists | .ftpClose | .smbDisconnect | .sftpEnd | .googleAccessToken => []

/-- A call with its name and what it is given. -/
def transcript (hostKeys : List Bytes) (c : Call) : Json :=
  .array (.string c.method.name :: c.arguments hostKeys)

end Call

end Depository
