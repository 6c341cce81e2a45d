import Depository.Backend.Config
import Depository.Cipher.Owner

/-!
# Secrets of configurations

Each backend names the fields of its configuration that are secret.  What is done with secrets is
defined once, for any list of secret fields.

* `Backend.secrets` — the secret fields of a backend;
* `Secret.hideAll` — a configuration with empty secrets;
* `Secret.keepAll` — an update that leaves a secret empty keeps the present one;
* `Secret.revealAll` — a configuration with every stored secret decrypted;
* `Secret.protectAll` — a configuration with every plain secret encrypted.
-/

namespace Depository

/-- A secret field of the configurations `C`. -/
structure Secret (C : Type) where
  key : String
  get : C → String
  set : String → C → C

namespace Backend

/-- The secret fields of a backend. -/
def secrets : (b : Backend) → List (Secret b.Config)
  | localDisk => []
  | s3 =>
    [⟨"s3AccessKey", S3Config.accessKey, fun v c => { c with accessKey := v }⟩,
      ⟨"s3SecretKey", S3Config.secretKey, fun v c => { c with secretKey := v }⟩]
  | nas => [⟨"password", NasConfig.password, fun v c => { c with password := v }⟩]
  | azureBlob =>
    [⟨"connectionString", AzureConfig.connectionString,
        fun v c => { c with connectionString := v }⟩,
      ⟨"accountKey", AzureConfig.accountKey, fun v c => { c with accountKey := v }⟩]
  | ftp => [⟨"password", FtpConfig.password, fun v c => { c with password := v }⟩]
  | sftp =>
    [⟨"password", SftpConfig.password, fun v c => { c with password := v }⟩,
      ⟨"privateKey", SftpConfig.privateKey, fun v c => { c with privateKey := v }⟩]
  | googleDrive =>
    [⟨"clientSecret", DriveConfig.clientSecret, fun v c => { c with clientSecret := v }⟩,
      ⟨"tokenJson", DriveConfig.token, fun v c => { c with token := v }⟩]
  | rclone => [⟨"configContent", RcloneConfig.content, fun v c => { c with content := v }⟩]

end Backend

namespace Secret

variable {C : Type}

/-- The configuration with every secret empty. -/
def hideAll (fields : List (Secret C)) (c : C) : C := fields.foldl (fun c f => f.set "" c) c

/-- The update `incoming`, with the present secret in place of each one that it leaves empty. -/
def keepAll (fields : List (Secret C)) (current incoming : C) : C :=
  fields.foldl (fun c f => if f.get incoming = "" then f.set (f.get current) c else c) incoming

/-- The configuration with every stored secret decrypted, for the record that owns it. -/
def revealAll (key : String) (owner : Cell) :
    List (Secret C) → C → Except Field.DecryptionFault C
  | [], c => .ok c
  | f :: rest, c => do
    let text ← Field.reveal (.ofText key) owner (f.get c)
    revealAll key owner rest (f.set text c)

/-- The field holds a plain text, which is to be encrypted. -/
def isPlain (f : Secret C) (c : C) : Bool := f.get c != "" && !Field.isMarked (f.get c)

/-- The outcome of encrypting the secrets of a configuration one by one. -/
structure Protection (C : Type) where
  /-- The configuration, up to the first secret that was not encrypted. -/
  config : C
  /-- The number of nonces used. -/
  used : Nat
  /-- Why a secret was not encrypted. -/
  fault : Option Field.EncryptionFault

/-- Encrypts the plain secrets for the record that owns them, with the nonces from number `used`
on. -/
def protectAll (key : String) (owner : Cell) (nonces : Nat → Bytes) (used : Nat) :
    List (Secret C) → C → Protection C
  | [], c => ⟨c, used, none⟩
  | f :: rest, c =>
    if f.isPlain c then
      match Field.encryptFor (.ofText key) (nonces used) owner (.ofText (f.get c)) with
      | .ok v => protectAll key owner nonces (used + 1) rest (f.set v c)
      | .error e => ⟨c, used + 1, some e⟩
    else protectAll key owner nonces used rest c

end Secret

end Depository
