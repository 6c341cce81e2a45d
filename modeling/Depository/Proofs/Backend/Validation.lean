import Depository.Backend.Validation
import Depository.Proofs.Backend.SecretFields
import Mathlib.Tactic.Tauto

/-!
# What the rules of a backend accept

The rules of `Backend.validate` fall into two parts (`Backend.validate_iff`): what every
configuration needs, `Backend.Accepts`, and the secrets that a new one must bring,
`Backend.Supplied`.  Both survive encryption and updates.  Content is looked into only while it is
plain, so once its secrets are marked a configuration is accepted for as long as none of them is
blanked (`Backend.Accepts.of_stored`, `Backend.Supplied.mono`).  What is not accepted is refused as
an invalid value, unless content cannot even be read (`Backend.failsAs_validate`).
-/

namespace Depository

namespace Backend

/-- What every configuration needs, whether it is new or not. -/
def Accepts : (b : Backend) → b.Config → Prop
  | localDisk, _ => True
  | s3, (c : S3Config) => c.bucket ≠ ""
  | nas, (c : NasConfig) =>
    c.host ≠ "" ∧ (1 ≤ c.port ∧ c.port ≤ 65535) ∧ c.share ≠ "" ∧ c.username ≠ ""
  | azureBlob, (c : AzureConfig) =>
    c.container ≠ "" ∧
      match c.method with
      | .connectionString => c.connectionString ≠ ""
      | .accountKey => c.accountName ≠ "" ∧ c.accountKey ≠ ""
  | ftp, (c : FtpConfig) => c.host ≠ "" ∧ (1 ≤ c.port ∧ c.port ≤ 65535) ∧ c.username ≠ ""
  | sftp, (c : SftpConfig) => c.host ≠ "" ∧ (1 ≤ c.port ∧ c.port ≤ 65535) ∧ c.username ≠ ""
  | googleDrive, (c : DriveConfig) =>
    c.clientId ≠ "" ∧ (isSubmitted c.token = true → (OAuth.Token.parse? c.token).isSome)
  | rclone, (c : RcloneConfig) =>
    isSubmitted c.content = true → ∃ names, remotesOf c.content = .ok names ∧ names ≠ []

/-- The secrets that a new configuration must bring are there. -/
def Supplied : (b : Backend) → b.Config → Prop
  | localDisk, _ | azureBlob, _ => True
  | s3, (c : S3Config) => c.accessKey ≠ "" ∧ c.secretKey ≠ ""
  | nas, (c : NasConfig) => c.password ≠ ""
  | ftp, (c : FtpConfig) => c.password ≠ ""
  | sftp, (c : SftpConfig) => c.password ≠ "" ∨ c.privateKey ≠ ""
  | googleDrive, (c : DriveConfig) => c.clientSecret ≠ "" ∧ c.token ≠ ""
  | rclone, (c : RcloneConfig) => c.content ≠ ""

/-! ### The rules one by one -/

theorem need_eq_ok {b : Backend} {value what : String} :
    need b value what = .ok () ↔ value ≠ "" := by
  unfold need
  split <;> simp_all

theorem needEither_eq_ok {b : Backend} {value other what : String} :
    needEither b value other what = .ok () ↔ value ≠ "" ∨ other ≠ "" := by
  unfold needEither
  split <;> simp_all [Classical.or_iff_not_imp_left]

theorem needPort_eq_ok {b : Backend} {port : Int} :
    needPort b port = .ok () ↔ 1 ≤ port ∧ port ≤ 65535 := by
  unfold needPort
  split <;> simp_all

/-- Two rules hold one after the other. -/
theorem rules_eq_ok {x : Except Failure Unit} {y : Except Failure Unit} :
    (x >>= fun _ => y) = .ok () ↔ x = .ok () ∧ y = .ok () := by
  cases x with
  | ok u => simp [bind, Except.bind]
  | error e => simp [bind, Except.bind]

theorem when_eq_ok {p : Prop} [Decidable p] {x : Except Failure Unit} :
    (if p then x else pure ()) = .ok () ↔ (p → x = .ok ()) := by
  split <;> simp_all [pure, Except.pure]

/-- A rule that refuses holds where it does not come to it. -/
theorem refuse_eq_ok {p : Prop} [Decidable p] {e : Failure} :
    (if p then (.error e : Except Failure Unit) else pure ()) = .ok () ↔ ¬ p := by
  split <;> simp_all [pure, Except.pure]

/-- A token is looked into while it is plain. -/
theorem token_rule {text : String} :
    ¬(isSubmitted text && (OAuth.Token.parse? text).isNone) = true ↔
      (isSubmitted text = true → (OAuth.Token.parse? text).isSome) := by
  cases isSubmitted text <;> cases OAuth.Token.parse? text <;> simp

/-- An rclone configuration has a remote. -/
theorem content_rule {content : String} :
    (remotesOf content >>= fun names =>
        if names.isEmpty = true then (.error (.invalid .noRemote) : Except Failure Unit)
        else pure ()) = .ok () ↔
      ∃ names, remotesOf content = .ok names ∧ names ≠ [] := by
  cases remotesOf content with
  | error e => simp [bind, Except.bind]
  | ok names => cases names <;> simp [bind, Except.bind, pure, Except.pure]

theorem validate_iff {b : Backend} {c : b.Config} {isNew : Bool} :
    b.validate c isNew = .ok () ↔ b.Accepts c ∧ (isNew = true → b.Supplied c) := by
  cases b with
  | localDisk => simp [validate, Accepts, Supplied]
  | s3 => simp [validate, Accepts, Supplied, rules_eq_ok, when_eq_ok, need_eq_ok]
  | nas =>
    simp [validate, Accepts, Supplied, rules_eq_ok, when_eq_ok, need_eq_ok, needPort_eq_ok,
      and_assoc]
  | azureBlob =>
    simp only [validate, Accepts, Supplied, rules_eq_ok, need_eq_ok, implies_true, and_true]
    cases AzureConfig.method c <;> simp only [need_eq_ok, rules_eq_ok]
  | ftp =>
    simp [validate, Accepts, Supplied, rules_eq_ok, when_eq_ok, need_eq_ok, needPort_eq_ok,
      and_assoc]
  | sftp =>
    simp [validate, Accepts, Supplied, rules_eq_ok, when_eq_ok, need_eq_ok, needPort_eq_ok,
      needEither_eq_ok, and_assoc]
  | googleDrive =>
    cases isNew with
    | false =>
      simp only [validate, Accepts, Supplied, Bool.false_eq_true, if_false, rules_eq_ok,
        refuse_eq_ok, need_eq_ok, token_rule, false_implies, and_true]
    | true =>
      simp only [validate, Accepts, Supplied, if_true, rules_eq_ok, refuse_eq_ok, need_eq_ok,
        token_rule, true_implies]
      tauto
  | rclone =>
    cases isNew with
    | false =>
      simp only [validate, Accepts, Supplied, Bool.false_eq_true, if_false, when_eq_ok,
        content_rule, false_implies, and_true]
    | true =>
      simp only [validate, Accepts, Supplied, if_true, rules_eq_ok, when_eq_ok, need_eq_ok,
        content_rule, true_implies]
      tauto

/-! ### Rules and secrets -/

variable {b : Backend} {c d : b.Config}

/-- What was supplied stays supplied as long as no secret is blanked. -/
theorem Supplied.mono (hs : ∀ f ∈ b.secrets, f.get c ≠ "" → f.get d ≠ "") (h : b.Supplied c) :
    b.Supplied d := by
  cases b with
  | localDisk | azureBlob => trivial
  | s3 | googleDrive =>
    simp only [secrets, List.forall_mem_cons] at hs
    exact ⟨hs.1 h.1, hs.2.1 h.2⟩
  | nas | ftp | rclone =>
    simp only [secrets, List.forall_mem_cons] at hs
    exact hs.1 h
  | sftp =>
    simp only [secrets, List.forall_mem_cons] at hs
    exact h.imp hs.1 hs.2.1

theorem isSubmitted_of_stored {text : String} (h : text = "" ∨ Field.isMarked text = true) :
    isSubmitted text = false := by
  rcases h with rfl | h <;> simp [isSubmitted, *]

/-- **A configuration that was accepted stays accepted** while its secrets are stored ones and none
of them is blanked: what is not secret in it is as before, and stored content is not looked into. -/
theorem Accepts.of_stored (hide : b.hide c = b.hide d)
    (hs : ∀ f ∈ b.secrets, f.get c ≠ "" → f.get d ≠ "")
    (hm : ∀ f ∈ b.secrets, f.get d = "" ∨ Field.isMarked (f.get d) = true) (h : b.Accepts c) :
    b.Accepts d := by
  cases b with
  | localDisk => trivial
  | s3 =>
    have hb : c.bucket = d.bucket := (congrArg S3Config.bucket hide :)
    simpa only [Accepts, hb] using h
  | nas =>
    have h1 : c.host = d.host := (congrArg NasConfig.host hide :)
    have h2 : c.port = d.port := (congrArg NasConfig.port hide :)
    have h3 : c.share = d.share := (congrArg NasConfig.share hide :)
    have h4 : c.username = d.username := (congrArg NasConfig.username hide :)
    simpa only [Accepts, h1, h2, h3, h4] using h
  | azureBlob =>
    have h1 : c.container = d.container := (congrArg AzureConfig.container hide :)
    have h2 : c.method = d.method := (congrArg AzureConfig.method hide :)
    have h3 : c.accountName = d.accountName := (congrArg AzureConfig.accountName hide :)
    -- the method is no secret, and the secret that it asks for is not blanked
    simp only [secrets, List.forall_mem_cons] at hs
    simp only [Accepts, h1, h2, h3] at h ⊢
    refine ⟨h.1, ?_⟩
    cases hd : AzureConfig.method d with
    | connectionString =>
      simp only [hd] at h
      exact hs.1 h.2
    | accountKey =>
      simp only [hd] at h
      exact ⟨h.2.1, hs.2.1 h.2.2⟩
  | ftp =>
    have h1 : c.host = d.host := (congrArg FtpConfig.host hide :)
    have h2 : c.port = d.port := (congrArg FtpConfig.port hide :)
    have h3 : c.username = d.username := (congrArg FtpConfig.username hide :)
    simpa only [Accepts, h1, h2, h3] using h
  | sftp =>
    have h1 : c.host = d.host := (congrArg SftpConfig.host hide :)
    have h2 : c.port = d.port := (congrArg SftpConfig.port hide :)
    have h3 : c.username = d.username := (congrArg SftpConfig.username hide :)
    simpa only [Accepts, h1, h2, h3] using h
  | googleDrive =>
    have h1 : c.clientId = d.clientId := (congrArg DriveConfig.clientId hide :)
    simp only [secrets, List.forall_mem_cons] at hm
    -- a stored token is not looked into
    refine ⟨h1 ▸ h.1, fun hp => ?_⟩
    rw [isSubmitted_of_stored hm.2.1] at hp
    cases hp
  | rclone =>
    simp only [secrets, List.forall_mem_cons] at hm
    intro hp
    rw [isSubmitted_of_stored hm.1] at hp
    cases hp

/-- A port that was accepted is one. -/
theorem Accepts.port (h : b.Accepts c) (hb : b = nas ∨ b = ftp ∨ b = sftp) :
    ∃ port : Int, Members.get? "port" (b.configMembers c) = some (.number (.integer port)) ∧
      1 ≤ port ∧ port ≤ 65535 := by
  rcases hb with rfl | rfl | rfl
  · exact ⟨NasConfig.port c, rfl, h.2.1⟩
  · exact ⟨FtpConfig.port c, rfl, h.2.1⟩
  · exact ⟨SftpConfig.port c, rfl, h.2.1⟩

/-! ### Why a configuration is refused -/

/-- The content of an rclone configuration. -/
def content? : (b : Backend) → b.Config → Option String
  | rclone, c => some (RcloneConfig.content c)
  | _, _ => none

/-- Whatever the outcome fails with, `P` holds of it. -/
def FailsAs {α : Type} (P : Failure → Prop) (x : Except Failure α) : Prop :=
  ∀ e, x = .error e → P e

section

variable {α β : Type} {P : Failure → Prop}

theorem FailsAs.bind {x : Except Failure α} {f : α → Except Failure β} (hx : FailsAs P x)
    (hf : ∀ a, FailsAs P (f a)) : FailsAs P (x >>= f) := by
  intro e he
  cases x with
  | error e' => exact hx e ((congrArg Except.error (Except.error.inj he)))
  | ok a => exact hf a e he

theorem failsAs_ok (a : α) : FailsAs P (.ok a) := nofun

theorem failsAs_error {e : Failure} (h : P e) : FailsAs P (.error e : Except Failure α) := by
  intro e' he
  exact Except.error.inj he ▸ h

theorem failsAs_ite {p : Prop} [Decidable p] {x y : Except Failure α} (hx : p → FailsAs P x)
    (hy : FailsAs P y) : FailsAs P (if p then x else y) := by
  by_cases hp : p
  · rw [if_pos hp]
    exact hx hp
  · rw [if_neg hp]
    exact hy

variable (hP : ∀ cause, P (.invalid cause))

include hP in
theorem failsAs_need (b : Backend) (value what : String) : FailsAs P (need b value what) :=
  failsAs_ite (fun _ => failsAs_error (hP _)) (failsAs_ok _)

include hP in
theorem failsAs_needPort (b : Backend) (port : Int) : FailsAs P (needPort b port) :=
  failsAs_ite (fun _ => failsAs_ok _) (failsAs_error (hP _))

include hP in
/-- **A configuration is refused as an invalid value**, or an rclone configuration in plain text
cannot be read. -/
theorem failsAs_validate (b : Backend) (c : b.Config) (isNew : Bool)
    (hcontent : ∀ text fault, b.content? c = some text → isSubmitted text = true →
      Remotes.list text = .error fault → P (.malformed (.document fault))) :
    FailsAs P (b.validate c isNew) := by
  have need := failsAs_need hP
  have port := failsAs_needPort hP
  have done : ∀ {β : Type} (a : β), FailsAs P (pure a : Except Failure β) := failsAs_ok
  cases b with
  | localDisk => exact failsAs_ok _
  | s3 =>
    refine FailsAs.bind (need _ _ _) fun _ => failsAs_ite (fun _ => ?_) (done _)
    exact FailsAs.bind (need _ _ _) fun _ => need _ _ _
  | nas =>
    refine FailsAs.bind (need _ _ _) fun _ => FailsAs.bind (port _ _) fun _ => ?_
    refine FailsAs.bind (need _ _ _) fun _ => FailsAs.bind (need _ _ _) fun _ => ?_
    exact failsAs_ite (fun _ => need _ _ _) (done _)
  | azureBlob =>
    refine FailsAs.bind (need _ _ _) fun _ => ?_
    split
    · exact need _ _ _
    · exact FailsAs.bind (need _ _ _) fun _ => need _ _ _
  | ftp =>
    refine FailsAs.bind (need _ _ _) fun _ => FailsAs.bind (port _ _) fun _ => ?_
    exact FailsAs.bind (need _ _ _) fun _ => failsAs_ite (fun _ => need _ _ _) (done _)
  | sftp =>
    refine FailsAs.bind (need _ _ _) fun _ => FailsAs.bind (port _ _) fun _ => ?_
    refine FailsAs.bind (need _ _ _) fun _ => failsAs_ite (fun _ => ?_) (done _)
    exact failsAs_ite (fun _ => failsAs_error (hP _)) (failsAs_ok _)
  | googleDrive =>
    have token : FailsAs P (if (isSubmitted (DriveConfig.token c) &&
        (OAuth.Token.parse? (DriveConfig.token c)).isNone) = true then
          .error (.invalid .noToken) else pure ()) :=
      failsAs_ite (fun _ => failsAs_error (hP _)) (done _)
    refine FailsAs.bind (need _ _ _) fun _ => failsAs_ite (fun _ => ?_) token
    exact FailsAs.bind (need _ _ _) fun _ => FailsAs.bind (need _ _ _) fun _ => token
  | rclone =>
    have remotes : FailsAs P (if isSubmitted (RcloneConfig.content c) = true then
        remotesOf (RcloneConfig.content c) >>= fun names =>
          if names.isEmpty = true then .error (.invalid .noRemote) else pure ()
        else pure ()) := by
      refine failsAs_ite (fun hsubmitted => FailsAs.bind (fun e he => ?_) fun names => ?_) (done _)
      · rw [remotesOf] at he
        split at he
        · cases he
        · next fault hfault =>
          obtain rfl := Except.error.inj he
          exact hcontent _ fault rfl hsubmitted hfault
      · exact failsAs_ite (fun _ => failsAs_error (hP _)) (done _)
    exact failsAs_ite (fun _ => FailsAs.bind (need _ _ _) fun _ => remotes) remotes

end

end Backend

end Depository
