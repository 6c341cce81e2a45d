import Depository.Proofs.Variant

/-!
# Secrets that are not told apart

Of its secrets a backend looks at little: whether one is empty, whether it is marked as stored, and,
for the two backends that look into the content of a secret, what they find there.  Configurations
that agree in this and in everything that is not secret are accepted or refused alike
(`Backend.Interchangeable.validate`), stay so when they are submitted as updates of one that is
stored (`Backend.Interchangeable.keepAll`), and are encrypted with as many nonces, or fail to be so
for the same reason (`Variant.Interchangeable.protect`).

* `Backend.content` — what is found in the content of a secret;
* `Backend.Interchangeable`, `Variant.Interchangeable` — the same but for the values of secrets.
-/

namespace Depository

namespace Secret

variable {C : Type} {key : String} {owner : Cell} {nonces : Nat → Bytes}

/-- Whether a text can be encrypted does not depend on the text. -/
theorem encryptFor_alike (key : String) (nonce : Bytes) (owner : Cell) (text other : String) :
    (∃ v w, Field.encryptFor (.ofText key) nonce owner (.ofText text) = .ok v ∧
      Field.encryptFor (.ofText key) nonce owner (.ofText other) = .ok w) ∨
    ∃ e, Field.encryptFor (.ofText key) nonce owner (.ofText text) = .error e ∧
      Field.encryptFor (.ofText key) nonce owner (.ofText other) = .error e := by
  have hkey : (Cell.ofText key).text? = some key := rfl
  have htext : ∀ t, (Cell.ofText t).text? = some t := fun _ => rfl
  simp only [Field.encryptFor, hkey, htext]
  cases owner.text? with
  | none => exact .inr ⟨_, rfl, rfl⟩
  | some id =>
    simp only [Field.encrypt]
    by_cases hn : Field.isNonce nonce = true
    · simp only [hn, if_true]
      exact .inl ⟨_, _, rfl, rfl⟩
    · simp only [hn]
      exact .inr ⟨_, rfl, rfl⟩

/-- Where the same secrets are plain, encryption takes as many nonces and fails alike. -/
theorem protectAll_alike (key : String) (owner : Cell) (nonces : Nat → Bytes)
    {fields : List (Secret C)} (h : Independent fields) {c d : C}
    (hplain : ∀ f ∈ fields, f.isPlain c = f.isPlain d) (used : Nat) :
    (protectAll key owner nonces used fields c).used =
        (protectAll key owner nonces used fields d).used ∧
      (protectAll key owner nonces used fields c).fault =
        (protectAll key owner nonces used fields d).fault := by
  induction fields generalizing used c d with
  | nil => exact ⟨rfl, rfl⟩
  | cons f fields ih =>
    have hrest : ∀ g ∈ fields, g.isPlain c = g.isPlain d :=
      fun g hg => hplain g (List.mem_cons_of_mem _ hg)
    rw [protectAll, protectAll, ← hplain f (List.mem_cons_self ..)]
    split
    · rcases encryptFor_alike key (nonces used) owner (f.get c) (f.get d) with
        ⟨v, w, hv, hw⟩ | ⟨e, hv, hw⟩ <;> rw [hv, hw]
      · -- what is stored of the first secret is none of the others
        refine ih h.tail (fun g hg => ?_) (used + 1)
        have hget := (List.pairwise_cons.1 h.apart).1 g hg
        rw [isPlain, isPlain, (hget v c).1, (hget w d).1]
        exact hrest g hg
      · exact ⟨rfl, rfl⟩
    · exact ih h.tail hrest used

end Secret

namespace Backend

/-- What is found in the content of a secret: that there is nothing to be used in it, or not.  A
document may be one that cannot be read. -/
def content : (b : Backend) → b.Config → Except Ini.Fault Bool
  | googleDrive, (c : DriveConfig) => .ok (OAuth.Token.parse? c.token).isNone
  | rclone, (c : RcloneConfig) => (Remotes.list c.content).map List.isEmpty
  | localDisk, _ | s3, _ | nas, _ | azureBlob, _ | ftp, _ | sftp, _ => .ok false

/-- The configurations are the same but for the values of their secrets. -/
structure Interchangeable (b : Backend) (c d : b.Config) : Prop where
  hide : b.hide c = b.hide d
  empty : ∀ f ∈ b.secrets, f.get c = "" ↔ f.get d = ""
  marked : ∀ f ∈ b.secrets, Field.isMarked (f.get c) = Field.isMarked (f.get d)
  content : b.content c = b.content d

variable {b : Backend} {c d : b.Config}

theorem Interchangeable.isPlain (h : b.Interchangeable c d) :
    ∀ f ∈ b.secrets, f.isPlain c = f.isPlain d := by
  intro f hf
  rw [Secret.isPlain, Secret.isPlain, h.marked f hf]
  congr 1
  rw [Bool.eq_iff_iff, bne_iff_ne, bne_iff_ne, ne_eq, ne_eq, h.empty f hf]

/-! ### Rules -/

theorem need_congr {value other : String} (h : value = "" ↔ other = "") (b : Backend)
    (what : String) : need b value what = need b other what := by
  rw [need, need, if_congr h rfl rfl]

theorem needEither_congr {value value' other other' : String} (h : value = "" ↔ value' = "")
    (h' : other = "" ↔ other' = "") (b : Backend) (what : String) :
    needEither b value other what = needEither b value' other' what := by
  rw [needEither, needEither, if_congr (and_congr h h') rfl rfl]

/-- The rule about remotes looks at no more of a document than what is found in it. -/
theorem remotes_congr {content other : String}
    (h : (Remotes.list content).map List.isEmpty = (Remotes.list other).map List.isEmpty) :
    (remotesOf content >>= fun names =>
        if names.isEmpty = true then (.error (.invalid .noRemote) : Except Failure Unit)
        else pure ()) =
      remotesOf other >>= fun names =>
        if names.isEmpty = true then (.error (.invalid .noRemote) : Except Failure Unit)
        else pure () := by
  rw [remotesOf, remotesOf]
  cases hc : Remotes.list content <;> cases ho : Remotes.list other <;>
    simp_all [Except.map, bind, Except.bind]

/-- **The rules do not tell secrets apart.** -/
theorem Interchangeable.validate (h : b.Interchangeable c d) (isNew : Bool) :
    b.validate c isNew = b.validate d isNew := by
  have hide := h.hide
  have hempty := h.empty
  have hplain := h.isPlain
  have hcontent := h.content
  cases b with
  | localDisk => rfl
  | s3 =>
    have h1 : c.bucket = d.bucket := (congrArg S3Config.bucket hide :)
    simp only [secrets, List.forall_mem_cons] at hempty
    simp only [Backend.validate, h1, need_congr hempty.1, need_congr hempty.2.1]
  | nas =>
    have h1 : c.host = d.host := (congrArg NasConfig.host hide :)
    have h2 : c.port = d.port := (congrArg NasConfig.port hide :)
    have h3 : c.share = d.share := (congrArg NasConfig.share hide :)
    have h4 : c.username = d.username := (congrArg NasConfig.username hide :)
    simp only [secrets, List.forall_mem_cons] at hempty
    simp only [Backend.validate, h1, h2, h3, h4, need_congr hempty.1]
  | azureBlob =>
    have h1 : c.container = d.container := (congrArg AzureConfig.container hide :)
    have h2 : c.method = d.method := (congrArg AzureConfig.method hide :)
    have h3 : c.accountName = d.accountName := (congrArg AzureConfig.accountName hide :)
    simp only [secrets, List.forall_mem_cons] at hempty
    simp only [Backend.validate, h1, h2, h3, need_congr hempty.1, need_congr hempty.2.1]
  | ftp =>
    have h1 : c.host = d.host := (congrArg FtpConfig.host hide :)
    have h2 : c.port = d.port := (congrArg FtpConfig.port hide :)
    have h3 : c.username = d.username := (congrArg FtpConfig.username hide :)
    simp only [secrets, List.forall_mem_cons] at hempty
    simp only [Backend.validate, h1, h2, h3, need_congr hempty.1]
  | sftp =>
    have h1 : c.host = d.host := (congrArg SftpConfig.host hide :)
    have h2 : c.port = d.port := (congrArg SftpConfig.port hide :)
    have h3 : c.username = d.username := (congrArg SftpConfig.username hide :)
    simp only [secrets, List.forall_mem_cons] at hempty
    simp only [Backend.validate, h1, h2, h3, needEither_congr hempty.1 hempty.2.1]
  | googleDrive =>
    have h1 : c.clientId = d.clientId := (congrArg DriveConfig.clientId hide :)
    simp only [secrets, List.forall_mem_cons] at hempty hplain
    have hsubmitted : isSubmitted c.token = isSubmitted d.token := hplain.2.1
    have htoken : (OAuth.Token.parse? c.token).isNone = (OAuth.Token.parse? d.token).isNone :=
      Except.ok.inj hcontent
    simp only [Backend.validate, h1, need_congr hempty.1, need_congr hempty.2.1, hsubmitted, htoken]
  | rclone =>
    simp only [secrets, List.forall_mem_cons] at hempty hplain
    have hsubmitted : isSubmitted c.content = isSubmitted d.content := hplain.1
    simp only [Backend.validate, need_congr hempty.1, hsubmitted, remotes_congr hcontent]

/-! ### Updates -/

/-- What is looked at of a secret is alike after an update: either update brings the secret, or
either keeps the one that is there. -/
theorem Interchangeable.kept (h : b.Interchangeable c d) (current : b.Config) {β : Type}
    (look : String → β) {f : Secret b.Config} (hf : f ∈ b.secrets)
    (hlook : look (f.get c) = look (f.get d)) :
    look (f.get (Secret.keepAll b.secrets current c)) =
      look (f.get (Secret.keepAll b.secrets current d)) := by
  rw [Secret.get_keepAll b.secrets_independent current c hf,
    Secret.get_keepAll b.secrets_independent current d hf]
  by_cases he : f.get c = ""
  · rw [if_pos he, if_pos ((h.empty f hf).1 he)]
  · have hd : ¬f.get d = "" := fun hd => he ((h.empty f hf).2 hd)
    rw [if_neg he, if_neg hd, hlook]

/-- **Updates that are not told apart** make configurations that are not told apart. -/
theorem Interchangeable.keepAll (h : b.Interchangeable c d) (current : b.Config) :
    b.Interchangeable (Secret.keepAll b.secrets current c)
      (Secret.keepAll b.secrets current d) := by
  refine ⟨?hide, fun f hf => ?empty, fun f hf => ?marked, ?content⟩
  case hide =>
    rw [Backend.hide_keepAll, Backend.hide_keepAll, h.hide]
  case empty =>
    exact iff_of_eq (h.kept current (· = "") hf (propext (h.empty f hf)))
  case marked =>
    exact h.kept current Field.isMarked hf (h.marked f hf)
  case content =>
    have hkept : ∀ f ∈ b.secrets, ∀ look : String → Except Ini.Fault Bool,
        look (f.get c) = look (f.get d) →
          look (f.get (Secret.keepAll b.secrets current c)) =
            look (f.get (Secret.keepAll b.secrets current d)) :=
      fun f hf look => h.kept current look hf
    have hcontent := h.content
    cases b with
    | localDisk | s3 | nas | azureBlob | ftp | sftp => rfl
    | googleDrive =>
      simp only [secrets, List.forall_mem_cons] at hkept
      exact hkept.2.1 (fun text => .ok (OAuth.Token.parse? text).isNone) hcontent
    | rclone =>
      simp only [secrets, List.forall_mem_cons] at hkept
      exact hkept.1 (fun text => (Remotes.list text).map List.isEmpty) hcontent

end Backend

/-! ### Variants -/

namespace Variant

/-- The variants are the same but for the values of their secrets. -/
def Interchangeable (v w : Variant) : Prop :=
  ∃ (b : Backend) (c d : b.Config), v = ⟨b, c⟩ ∧ w = ⟨b, d⟩ ∧ b.Interchangeable c d

variable {v w : Variant} {key : String} {owner : Cell} {nonces : Nat → Bytes}

theorem Interchangeable.backend (h : v.Interchangeable w) : v.backend = w.backend := by
  obtain ⟨b, c, d, rfl, rfl, -⟩ := h
  rfl

theorem Interchangeable.validate (h : v.Interchangeable w) (isNew : Bool) :
    v.validate isNew = w.validate isNew := by
  obtain ⟨b, c, d, rfl, rfl, hcd⟩ := h
  exact hcd.validate isNew

/-- An update replaces a variant, or is merged into it, whatever its secrets are. -/
theorem Interchangeable.merge (h : v.Interchangeable w) (current : Variant) :
    (current.merge v).variant.Interchangeable (current.merge w).variant ∧
      (current.merge v).replaced = (current.merge w).replaced := by
  obtain ⟨b, c, d, rfl, rfl, hcd⟩ := h
  obtain ⟨b', c'⟩ := current
  by_cases hb : b' = b
  · subst hb
    rw [merge_same, merge_same]
    exact ⟨⟨b', _, _, rfl, rfl, hcd.keepAll c'⟩, rfl⟩
  · rw [merge_other hb, merge_other hb]
    exact ⟨⟨b, c, d, rfl, rfl, hcd⟩, rfl⟩

/-- **Encryption does not tell secrets apart**: it takes as many nonces, fails for the same reason,
and gives variants that are the same but for their secrets. -/
theorem Interchangeable.protect (h : v.Interchangeable w) (key : String) (owner : Cell)
    (nonces : Nat → Bytes) (used : Nat) :
    (v.protect key owner nonces used).used = (w.protect key owner nonces used).used ∧
      (v.protect key owner nonces used).fault = (w.protect key owner nonces used).fault ∧
      (v.protect key owner nonces used).variant.hide =
        (w.protect key owner nonces used).variant.hide := by
  obtain ⟨b, c, d, rfl, rfl, hcd⟩ := h
  obtain ⟨hused, hfault⟩ :=
    Secret.protectAll_alike key owner nonces b.secrets_independent hcd.isPlain used
  refine ⟨hused, hfault, congrArg (Variant.mk b) ?_⟩
  show b.hide (Secret.protectAll key owner nonces used b.secrets c).config =
    b.hide (Secret.protectAll key owner nonces used b.secrets d).config
  rw [Secret.protectAll_of_ignores b.ignores_hide, Secret.protectAll_of_ignores b.ignores_hide,
    hcd.hide]

end Variant

end Depository
