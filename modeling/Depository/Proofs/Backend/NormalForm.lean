import Depository.Backend.Config

/-!
# Configurations are in normal form

What a reader accepts is trimmed, and what is trimmed is read back from what is written of it.  So a
configuration that was read once is read again as it is, however often it is written to a table and
loaded from there (`Backend.readConfig_writeConfig`, `Backend.trim_of_readConfig`).

* `Backend.trim` — a configuration with its texts trimmed, except secrets;
* `S3Config.read_eq_valid` and its like — what the reader of each backend accepts.
-/

namespace Depository

open Schema

namespace Schema

/-! ### Valid outcomes of readers -/

namespace Checked

variable {α β : Type}

/-- The outcome is valid, with a value of which `P` holds. -/
def Yields (x : Checked α) (P : α → Prop) : Prop := ∃ a, x = valid a ∧ P a

theorem eq_valid_iff {x : Checked α} {a : α} : x = valid a ↔ x.Yields (· = a) := by
  simp [Yields]

theorem yields_map {f : α → β} {x : Checked α} {P : β → Prop} :
    (f <$> x).Yields P ↔ x.Yields fun a => P (f a) := by
  cases x <;> simp [Functor.map, map, Yields]

theorem yields_seq {f : Checked (α → β)} {x : Checked α} {P : β → Prop} :
    (f <*> x).Yields P ↔ f.Yields fun g => x.Yields fun a => P (g a) := by
  cases f <;> cases x <;> simp [Seq.seq, seq, Yields]

theorem yields_eq {x : Checked α} {a : α} : (x.Yields fun b => b = a) ↔ x = valid a :=
  eq_valid_iff.symm

theorem yields_eq_and {x : Checked α} {a : α} {p : Prop} :
    (x.Yields fun b => b = a ∧ p) ↔ x = valid a ∧ p := by
  constructor
  · rintro ⟨b, hx, rfl, hp⟩
    exact ⟨hx, hp⟩
  · rintro ⟨hx, hp⟩
    exact ⟨a, hx, rfl, hp⟩

theorem yields_and_left {x : Checked α} {p : Prop} {P : α → Prop} :
    (x.Yields fun b => p ∧ P b) ↔ p ∧ x.Yields P := by
  constructor
  · rintro ⟨b, hx, hp, hb⟩
    exact ⟨hp, b, hx, hb⟩
  · rintro ⟨hp, b, hx, hb⟩
    exact ⟨b, hx, hp, hb⟩

theorem under_eq_valid {key : String} {x : Checked α} {a : α} :
    x.under key = valid a ↔ x = valid a := by
  cases x <;> simp [under]

end Checked

theorem field_eq_valid {α : Type} {o : Json} {key : String} {r : Reader α} {a : α} :
    field o key r = .valid a ↔ r (o.get? key) = .valid a := Checked.under_eq_valid

end Schema

open Checked (eq_valid_iff yields_map yields_seq yields_eq yields_eq_and yields_and_left)

/-! ### Fields -/

namespace Backend

theorem trim_of_textField {v : Option Json} {s : String} (h : textField v = .valid s) :
    Text.trim s = s := by
  match v, h with
  | none, h => cases h; rfl
  | some .null, h => cases h; rfl
  | some (.string t), h =>
    obtain rfl := Checked.valid.inj h
    exact Text.trim_trim t

@[simp] theorem textField_string (s : String) :
    textField (some (.string s)) = .valid (Text.trim s) := rfl

@[simp] theorem secretField_string (s : String) : secretField (some (.string s)) = .valid s := rfl

@[simp] theorem flagField_bool (b : Bool) : flagField (some (.bool b)) = .valid b := rfl

@[simp] theorem portField_integer (default i : Int) :
    portField default (some (.number (.integer i))) = .valid i := rfl

/-- The method of Azure Blob storage, with its default. -/
def methodField : Reader AzureMethod := (option AzureMethod.table true).orElse .accountKey

@[simp] theorem methodField_name (m : AzureMethod) :
    methodField (some (.string m.name)) = .valid m := by
  cases m <;> rfl

end Backend

/-! ### What each reader accepts -/

open Backend (textField secretField flagField portField methodField)

theorem S3Config.read_eq_valid {o : Json} {c : S3Config} :
    S3Config.read o = .valid c ↔
      textField (o.get? "s3Bucket") = .valid c.bucket ∧
      textField (o.get? "s3Region") = .valid c.region ∧
      secretField (o.get? "s3AccessKey") = .valid c.accessKey ∧
      secretField (o.get? "s3SecretKey") = .valid c.secretKey ∧
      textField (o.get? "s3Endpoint") = .valid c.endpoint ∧
      textField (o.get? "s3Prefix") = .valid c.keyPrefix ∧
      flagField (o.get? "s3UseVirtualHostedStyle") = .valid c.virtualHosted ∧
      flagField (o.get? "skipTLSVerify") = .valid c.skipTlsVerify := by
  cases c
  rw [S3Config.read, eq_valid_iff]
  simp only [yields_map, yields_seq]
  simp only [S3Config.mk.injEq, yields_eq, yields_eq_and, yields_and_left, field_eq_valid]

theorem NasConfig.read_eq_valid {o : Json} {c : NasConfig} :
    NasConfig.read o = .valid c ↔
      textField (o.get? "host") = .valid c.host ∧
      portField 445 (o.get? "port") = .valid c.port ∧
      textField (o.get? "share") = .valid c.share ∧
      textField (o.get? "username") = .valid c.username ∧
      secretField (o.get? "password") = .valid c.password ∧
      flagField (o.get? "useSsl") = .valid c.useTls ∧
      textField (o.get? "domain") = .valid c.domain ∧
      textField (o.get? "path") = .valid c.path := by
  cases c
  rw [NasConfig.read, eq_valid_iff]
  simp only [yields_map, yields_seq]
  simp only [NasConfig.mk.injEq, yields_eq, yields_eq_and, yields_and_left, field_eq_valid]

theorem AzureConfig.read_eq_valid {o : Json} {c : AzureConfig} :
    AzureConfig.read o = .valid c ↔
      methodField (o.get? "authMethod") = .valid c.method ∧
      secretField (o.get? "connectionString") = .valid c.connectionString ∧
      textField (o.get? "accountName") = .valid c.accountName ∧
      secretField (o.get? "accountKey") = .valid c.accountKey ∧
      textField (o.get? "containerName") = .valid c.container ∧
      textField (o.get? "endpoint") = .valid c.endpoint ∧
      textField (o.get? "prefix") = .valid c.blobPrefix := by
  cases c
  rw [AzureConfig.read, eq_valid_iff]
  simp only [yields_map, yields_seq]
  simp only [AzureConfig.mk.injEq, yields_eq, yields_eq_and, yields_and_left, field_eq_valid,
    methodField]

theorem FtpConfig.read_eq_valid {o : Json} {c : FtpConfig} :
    FtpConfig.read o = .valid c ↔
      textField (o.get? "host") = .valid c.host ∧
      portField 21 (o.get? "port") = .valid c.port ∧
      textField (o.get? "username") = .valid c.username ∧
      secretField (o.get? "password") = .valid c.password ∧
      flagField (o.get? "useSsl") = .valid c.useTls ∧
      flagField (o.get? "skipTlsVerify") = .valid c.skipTlsVerify ∧
      textField (o.get? "path") = .valid c.path := by
  cases c
  rw [FtpConfig.read, eq_valid_iff]
  simp only [yields_map, yields_seq]
  simp only [FtpConfig.mk.injEq, yields_eq, yields_eq_and, yields_and_left, field_eq_valid]

theorem SftpConfig.read_eq_valid {o : Json} {c : SftpConfig} :
    SftpConfig.read o = .valid c ↔
      textField (o.get? "host") = .valid c.host ∧
      portField 22 (o.get? "port") = .valid c.port ∧
      textField (o.get? "username") = .valid c.username ∧
      secretField (o.get? "password") = .valid c.password ∧
      secretField (o.get? "privateKey") = .valid c.privateKey ∧
      flagField (o.get? "skipHostKeyVerify") = .valid c.skipHostKeyVerify ∧
      textField (o.get? "hostKeyFingerprint") = .valid c.fingerprint ∧
      textField (o.get? "path") = .valid c.path := by
  cases c
  rw [SftpConfig.read, eq_valid_iff]
  simp only [yields_map, yields_seq]
  simp only [SftpConfig.mk.injEq, yields_eq, yields_eq_and, yields_and_left, field_eq_valid]

theorem DriveConfig.read_eq_valid {o : Json} {c : DriveConfig} :
    DriveConfig.read o = .valid c ↔
      textField (o.get? "clientId") = .valid c.clientId ∧
      secretField (o.get? "clientSecret") = .valid c.clientSecret ∧
      secretField (o.get? "tokenJson") = .valid c.token := by
  cases c
  rw [DriveConfig.read, eq_valid_iff]
  simp only [yields_map, yields_seq]
  simp only [DriveConfig.mk.injEq, yields_eq, yields_eq_and, yields_and_left, field_eq_valid]

theorem RcloneConfig.read_eq_valid {o : Json} {c : RcloneConfig} :
    RcloneConfig.read o = .valid c ↔
      secretField (o.get? "configContent") = .valid c.content ∧
      textField (o.get? "remotePath") = .valid c.remotePath := by
  cases c
  rw [RcloneConfig.read, eq_valid_iff]
  simp only [yields_map, yields_seq]
  simp only [RcloneConfig.mk.injEq, yields_eq, yields_eq_and, yields_and_left, field_eq_valid]

/-! ### The normal form -/

namespace Backend

/-- The configuration with every text trimmed but its secrets. -/
def trim : (b : Backend) → b.Config → b.Config
  | localDisk, c => c
  | s3, (c : S3Config) =>
    { c with
      bucket := Text.trim c.bucket, region := Text.trim c.region
      endpoint := Text.trim c.endpoint, keyPrefix := Text.trim c.keyPrefix }
  | nas, (c : NasConfig) =>
    { c with
      host := Text.trim c.host, share := Text.trim c.share, username := Text.trim c.username
      domain := Text.trim c.domain, path := Text.trim c.path }
  | azureBlob, (c : AzureConfig) =>
    { c with
      accountName := Text.trim c.accountName, container := Text.trim c.container
      endpoint := Text.trim c.endpoint, blobPrefix := Text.trim c.blobPrefix }
  | ftp, (c : FtpConfig) =>
    { c with
      host := Text.trim c.host, username := Text.trim c.username, path := Text.trim c.path }
  | sftp, (c : SftpConfig) =>
    { c with
      host := Text.trim c.host, username := Text.trim c.username
      fingerprint := Text.trim c.fingerprint, path := Text.trim c.path }
  | googleDrive, (c : DriveConfig) => { c with clientId := Text.trim c.clientId }
  | rclone, (c : RcloneConfig) => { c with remotePath := Text.trim c.remotePath }

/-- What is read of what was written of a configuration is the configuration, trimmed. -/
theorem readConfig_writeConfig (b : Backend) (c : b.Config) :
    b.readConfig (b.writeConfig c) = .valid (b.trim c) := by
  cases b with
  | localDisk => rfl
  | s3 =>
    refine S3Config.read_eq_valid.2 ?_
    simp [configMembers, S3Config.members, Json.get?, Members.get?, trim]
  | nas =>
    refine NasConfig.read_eq_valid.2 ?_
    simp [configMembers, NasConfig.members, Json.get?, Members.get?, trim]
  | azureBlob =>
    refine AzureConfig.read_eq_valid.2 ?_
    simp [configMembers, AzureConfig.members, Json.get?, Members.get?, trim]
  | ftp =>
    refine FtpConfig.read_eq_valid.2 ?_
    simp [configMembers, FtpConfig.members, Json.get?, Members.get?, trim]
  | sftp =>
    refine SftpConfig.read_eq_valid.2 ?_
    simp [configMembers, SftpConfig.members, Json.get?, Members.get?, trim]
  | googleDrive =>
    refine DriveConfig.read_eq_valid.2 ?_
    simp [configMembers, DriveConfig.members, Json.get?, Members.get?, trim]
  | rclone =>
    refine RcloneConfig.read_eq_valid.2 ?_
    simp [configMembers, RcloneConfig.members, Json.get?, Members.get?, trim]

/-- What was read is trimmed. -/
theorem trim_of_readConfig {b : Backend} {v : Json} {c : b.Config}
    (h : b.readConfig v = .valid c) : b.trim c = c := by
  unfold readConfig at h
  split at h
  · cases b with
    | localDisk => rfl
    | s3 =>
      obtain ⟨h1, h2, -, -, h5, h6, -, -⟩ := S3Config.read_eq_valid.1 h
      simp only [trim, trim_of_textField h1, trim_of_textField h2, trim_of_textField h5,
        trim_of_textField h6]
    | nas =>
      obtain ⟨h1, -, h3, h4, -, -, h7, h8⟩ := NasConfig.read_eq_valid.1 h
      simp only [trim, trim_of_textField h1, trim_of_textField h3, trim_of_textField h4,
        trim_of_textField h7, trim_of_textField h8]
    | azureBlob =>
      obtain ⟨-, -, h3, -, h5, h6, h7⟩ := AzureConfig.read_eq_valid.1 h
      simp only [trim, trim_of_textField h3, trim_of_textField h5, trim_of_textField h6,
        trim_of_textField h7]
    | ftp =>
      obtain ⟨h1, -, h3, -, -, -, h7⟩ := FtpConfig.read_eq_valid.1 h
      simp only [trim, trim_of_textField h1, trim_of_textField h3, trim_of_textField h7]
    | sftp =>
      obtain ⟨h1, -, h3, -, -, -, h7, h8⟩ := SftpConfig.read_eq_valid.1 h
      simp only [trim, trim_of_textField h1, trim_of_textField h3, trim_of_textField h7,
        trim_of_textField h8]
    | googleDrive =>
      obtain ⟨h1, -, -⟩ := DriveConfig.read_eq_valid.1 h
      simp only [trim, trim_of_textField h1]
    | rclone =>
      obtain ⟨-, h2⟩ := RcloneConfig.read_eq_valid.1 h
      simp only [trim, trim_of_textField h2]
  · cases h

end Backend

end Depository
