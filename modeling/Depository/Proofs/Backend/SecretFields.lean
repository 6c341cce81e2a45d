import Depository.Proofs.Backend.Secret
import Mathlib.Data.List.Forall2

/-!
# The secret fields of every backend

What is said of secrets in general is brought to the eight backends here, one case for each of
them.  Secrets are told by their names in the stored form, `Backend.secretKeys`; that the fields of
`Backend.secrets` are just these is what `Backend.get?_secret` and `Backend.get?_hide` say: the one
for the members of these names, the other for all other members.  Of what the reader of a backend
does, `Backend.hide_of_readMembers` says what it accepts, and `Backend.refusal?_readMembers` what it
refuses.
-/

namespace Depository

/-- Members that are alike under a name have the same value there. -/
theorem Members.get?_congr {α : Type} {name : String} {ms ns : Members α}
    (h : List.Forall₂ (fun m n => m.1 = n.1 ∧ (m.1 = name → m.2 = n.2)) ms ns) :
    Members.get? name ms = Members.get? name ns := by
  induction h with
  | nil => rfl
  | @cons m n _ _ hm _ ih =>
    obtain ⟨k, v⟩ := m
    obtain ⟨k', w⟩ := n
    obtain ⟨rfl, hv⟩ := hm
    by_cases hk : k = name
    · simpa only [Members.get?, hk, ↓reduceIte, Option.some.injEq] using hv hk
    · simpa only [Members.get?, hk, ↓reduceIte] using ih

namespace Backend

/-- The members of a stored configuration that are secret. -/
def secretKeys : Backend → List String
  | localDisk => []
  | s3 => ["s3AccessKey", "s3SecretKey"]
  | nas => ["password"]
  | azureBlob => ["connectionString", "accountKey"]
  | ftp => ["password"]
  | sftp => ["password", "privateKey"]
  | googleDrive => ["clientSecret", "tokenJson"]
  | rclone => ["configContent"]

theorem map_key_secrets (b : Backend) : b.secrets.map Secret.key = b.secretKeys := by
  cases b <;> rfl

theorem secrets_independent (b : Backend) : Secret.Independent b.secrets := by
  cases b <;> constructor <;> simp [secrets]

/-- The configuration with every secret empty. -/
abbrev hide (b : Backend) (c : b.Config) : b.Config := Secret.hideAll b.secrets c

theorem ignores_hide (b : Backend) : Secret.Ignores b.secrets b.hide := by
  cases b <;> simp [secrets, Secret.Ignores, Secret.hideAll, hide]

variable {b : Backend} {c d : b.Config}

theorem get_hide {f : Secret b.Config} (hf : f ∈ b.secrets) : f.get (b.hide c) = "" := by
  cases b <;> simp [secrets] at hf <;> rcases hf with rfl | rfl <;> rfl

theorem hide_hide (b : Backend) (c : b.Config) : b.hide (b.hide c) = b.hide c := by
  cases b <;> rfl

/-- A secret is stored under its key. -/
theorem get?_secret {f : Secret b.Config} (hf : f ∈ b.secrets) (c : b.Config) :
    Members.get? f.key (b.configMembers c) = some (.string (f.get c)) := by
  cases b <;> simp [secrets] at hf <;> rcases hf with rfl | rfl <;> rfl

/-! ### What is not secret -/

/-- A configuration is determined by what is not secret in it and by its secrets. -/
theorem eq_of_hide (h : b.hide c = b.hide d) (hs : ∀ f ∈ b.secrets, f.get c = f.get d) :
    c = d := by
  cases b <;> cases c <;> cases d <;> simp_all [hide, Secret.hideAll, secrets]

/-- An update leaves what is not secret as it is submitted. -/
theorem hide_keepAll (b : Backend) (c d : b.Config) :
    b.hide (Secret.keepAll b.secrets c d) = b.hide d :=
  Secret.keepAll_of_ignores b.ignores_hide c d

/-- An update that leaves every secret empty changes nothing, if it changes nothing else. -/
theorem keepAll_hide (c : b.Config) : Secret.keepAll b.secrets c (b.hide c) = c := by
  refine eq_of_hide ?_ fun f hf => ?_
  · rw [hide_keepAll, hide_hide]
  · rw [Secret.get_keepAll b.secrets_independent c _ hf, if_pos (get_hide hf)]

/-- Member by member, a configuration and the one with hidden secrets differ in secrets only. -/
theorem forall₂_hide (b : Backend) (c : b.Config) :
    List.Forall₂ (fun m n : String × Json => m.1 = n.1 ∧ (m.1 ∉ b.secretKeys → m.2 = n.2))
      (b.configMembers (b.hide c)) (b.configMembers c) := by
  cases b with
  | localDisk => exact .nil
  | s3 => simp [configMembers, S3Config.members, secretKeys, Secret.hideAll, secrets]
  | nas => simp [configMembers, NasConfig.members, secretKeys, Secret.hideAll, secrets]
  | azureBlob => simp [configMembers, AzureConfig.members, secretKeys, Secret.hideAll, secrets]
  | ftp => simp [configMembers, FtpConfig.members, secretKeys, Secret.hideAll, secrets]
  | sftp => simp [configMembers, SftpConfig.members, secretKeys, Secret.hideAll, secrets]
  | googleDrive => simp [configMembers, DriveConfig.members, secretKeys, Secret.hideAll, secrets]
  | rclone => simp [configMembers, RcloneConfig.members, secretKeys, Secret.hideAll, secrets]

/-- Other members than secrets are stored as they are. -/
theorem get?_hide {key : String} (h : key ∉ b.secretKeys) (c : b.Config) :
    Members.get? key (b.configMembers (b.hide c)) = Members.get? key (b.configMembers c) := by
  refine Members.get?_congr ((b.forall₂_hide c).imp fun m n hm => ⟨hm.1, fun hk => hm.2 ?_⟩)
  rwa [hk]

/-- The names of the members are those of the backend. -/
theorem names_configMembers (b : Backend) (c d : b.Config) :
    Members.names (b.configMembers c) = Members.names (b.configMembers d) := by
  cases b <;> rfl

theorem trim_hide (b : Backend) (c : b.Config) : b.trim (b.hide c) = b.hide (b.trim c) := by
  cases b <;> rfl

theorem get_trim {f : Secret b.Config} (hf : f ∈ b.secrets) (c : b.Config) :
    f.get (b.trim c) = f.get c := by
  cases b <;> simp [secrets] at hf <;> rcases hf with rfl | rfl <;> rfl

/-- Secrets do not count for being trimmed. -/
theorem trim_of_hide (h : b.hide c = b.hide d) (hc : b.trim c = c) : b.trim d = d := by
  refine eq_of_hide ?_ fun f hf => get_trim hf d
  rw [← trim_hide, ← h, trim_hide, hc]

/-! ### Readers -/

/-- What a reader makes of a value it makes of every equal one. -/
theorem valid_unique {α : Type} {r : Schema.Reader α} {v w : Option Json} {x y : α} (h : v = w)
    (hx : r v = .valid x) (hy : r w = .valid y) : x = y := by
  rw [h, hy] at hx
  exact (Schema.Checked.valid.inj hx).symm

/-- Of objects with the same members besides the secrets, configurations are read that are the same
besides their secrets. -/
theorem hide_of_readMembers {o p : Json} (h : ∀ key ∉ b.secretKeys, o.get? key = p.get? key)
    (hc : b.readMembers o = .valid c) (hd : b.readMembers p = .valid d) :
    b.hide c = b.hide d := by
  cases b with
  | localDisk => rfl
  | s3 =>
    obtain ⟨c1, c2, -, -, c5, c6, c7, c8⟩ := S3Config.read_eq_valid.1 hc
    obtain ⟨d1, d2, -, -, d5, d6, d7, d8⟩ := S3Config.read_eq_valid.1 hd
    simp only [hide, Secret.hideAll, secrets, List.foldl_cons, List.foldl_nil,
      valid_unique (h _ (by decide)) c1 d1, valid_unique (h _ (by decide)) c2 d2,
      valid_unique (h _ (by decide)) c5 d5, valid_unique (h _ (by decide)) c6 d6,
      valid_unique (h _ (by decide)) c7 d7, valid_unique (h _ (by decide)) c8 d8]
  | nas =>
    obtain ⟨c1, c2, c3, c4, -, c6, c7, c8⟩ := NasConfig.read_eq_valid.1 hc
    obtain ⟨d1, d2, d3, d4, -, d6, d7, d8⟩ := NasConfig.read_eq_valid.1 hd
    simp only [hide, Secret.hideAll, secrets, List.foldl_cons, List.foldl_nil,
      valid_unique (h _ (by decide)) c1 d1, valid_unique (h _ (by decide)) c2 d2,
      valid_unique (h _ (by decide)) c3 d3, valid_unique (h _ (by decide)) c4 d4,
      valid_unique (h _ (by decide)) c6 d6, valid_unique (h _ (by decide)) c7 d7,
      valid_unique (h _ (by decide)) c8 d8]
  | azureBlob =>
    obtain ⟨c1, -, c3, -, c5, c6, c7⟩ := AzureConfig.read_eq_valid.1 hc
    obtain ⟨d1, -, d3, -, d5, d6, d7⟩ := AzureConfig.read_eq_valid.1 hd
    simp only [hide, Secret.hideAll, secrets, List.foldl_cons, List.foldl_nil,
      valid_unique (h _ (by decide)) c1 d1, valid_unique (h _ (by decide)) c3 d3,
      valid_unique (h _ (by decide)) c5 d5, valid_unique (h _ (by decide)) c6 d6,
      valid_unique (h _ (by decide)) c7 d7]
  | ftp =>
    obtain ⟨c1, c2, c3, -, c5, c6, c7⟩ := FtpConfig.read_eq_valid.1 hc
    obtain ⟨d1, d2, d3, -, d5, d6, d7⟩ := FtpConfig.read_eq_valid.1 hd
    simp only [hide, Secret.hideAll, secrets, List.foldl_cons, List.foldl_nil,
      valid_unique (h _ (by decide)) c1 d1, valid_unique (h _ (by decide)) c2 d2,
      valid_unique (h _ (by decide)) c3 d3, valid_unique (h _ (by decide)) c5 d5,
      valid_unique (h _ (by decide)) c6 d6, valid_unique (h _ (by decide)) c7 d7]
  | sftp =>
    obtain ⟨c1, c2, c3, -, -, c6, c7, c8⟩ := SftpConfig.read_eq_valid.1 hc
    obtain ⟨d1, d2, d3, -, -, d6, d7, d8⟩ := SftpConfig.read_eq_valid.1 hd
    simp only [hide, Secret.hideAll, secrets, List.foldl_cons, List.foldl_nil,
      valid_unique (h _ (by decide)) c1 d1, valid_unique (h _ (by decide)) c2 d2,
      valid_unique (h _ (by decide)) c3 d3, valid_unique (h _ (by decide)) c6 d6,
      valid_unique (h _ (by decide)) c7 d7, valid_unique (h _ (by decide)) c8 d8]
  | googleDrive =>
    obtain ⟨c1, -, -⟩ := DriveConfig.read_eq_valid.1 hc
    obtain ⟨d1, -, -⟩ := DriveConfig.read_eq_valid.1 hd
    simp only [hide, Secret.hideAll, secrets, List.foldl_cons, List.foldl_nil,
      valid_unique (h _ (by decide)) c1 d1]
  | rclone =>
    obtain ⟨-, c2⟩ := RcloneConfig.read_eq_valid.1 hc
    obtain ⟨-, d2⟩ := RcloneConfig.read_eq_valid.1 hd
    simp only [hide, Secret.hideAll, secrets, List.foldl_cons, List.foldl_nil,
      valid_unique (h _ (by decide)) c2 d2]

end Backend

/-! ### Refusals -/

namespace Schema.Checked

variable {α β : Type}

/-- The issues for which a value is refused; none if it is valid. -/
def refusal? : Checked α → Option (List Issue)
  | valid _ => none
  | invalid issues => some issues

@[simp] theorem refusal?_map (f : α → β) (x : Checked α) : (f <$> x).refusal? = x.refusal? := by
  cases x <;> rfl

@[simp] theorem refusal?_seq (f : Checked (α → β)) (x : Checked α) :
    (f <*> x).refusal? = Option.merge (· ++ ·) f.refusal? x.refusal? := by
  cases f <;> cases x <;> rfl

theorem refusal?_under (key : String) (x : Checked α) :
    (x.under key).refusal? = x.refusal?.map (List.map (Issue.under key)) := by
  cases x <;> rfl

end Schema.Checked

namespace Backend

open Schema (Reader field)
open Schema.Checked (refusal?_map refusal?_seq refusal?_under)

/-- Of objects with the same members besides the secrets, neither is refused, or both are and for
the same issues, if that is so of each secret. -/
theorem refusal?_readMembers {b : Backend} {o p : Json}
    (h : ∀ key ∉ b.secretKeys, o.get? key = p.get? key)
    (hs : ∀ key ∈ b.secretKeys,
      (secretField (o.get? key)).refusal? = (secretField (p.get? key)).refusal?) :
    (b.readMembers o).refusal? = (b.readMembers p).refusal? := by
  have hopen : ∀ {α : Type} (r : Reader α) {key : String}, key ∉ b.secretKeys →
      (field o key r).refusal? = (field p key r).refusal? := by
    intro α r key hkey
    rw [field, field, h key hkey]
  have hsecret : ∀ {key : String}, key ∈ b.secretKeys →
      (field o key secretField).refusal? = (field p key secretField).refusal? := by
    intro key hkey
    rw [field, field, refusal?_under, refusal?_under, hs key hkey]
  -- every reader is a row of fields, each of which is a secret or not
  cases b <;> simp (disch := decide) only [readMembers, S3Config.read, NasConfig.read,
    AzureConfig.read, FtpConfig.read, SftpConfig.read, DriveConfig.read, RcloneConfig.read,
    refusal?_seq, refusal?_map, hopen, hsecret]

end Backend

end Depository
