import Depository.Http.Server
import Depository.Proofs.Probe.Discipline
import Depository.Proofs.Probe.Outcome
import Depository.Proofs.Service.Tells
import Depository.Proofs.Service.Test

/-!
# Failures that the caller is told

A caller who submits a storage, to have it saved or tested, is told why that fails: he may not do
it, something is not there, the submission is refused, a system storage does not allow it, the
connection fails or a secret cannot be encrypted or decrypted.  Two failures are not told: an rclone
configuration in plain text that the reader of its sections cannot read, and trouble with a
connection for which there are no words.

* `Failure.IsTold` — the failures whose cause is told, with a status (`Failure.IsTold.status`);
* `Service.save_tells`, `Service.testSubmitted_tells` — the two operations on submissions;
* `Http.submissions_told` — **the caller is told the cause of every other failure**, and
  `Http.garbled_content_untold`, a body for which he is not.
-/

namespace Depository

/-- The classes of the failures whose cause is told to whoever submits a storage. -/
def Failure.toldCategories : List Failure.Category :=
  [.permission, .notFound, .invalid, .systemStorage, .connection, .encryption, .decryption]

/-- The cause of the failure is told. -/
def Failure.IsTold (e : Failure) : Prop := toldCategories.contains e.category = true

/-- What is told is answered with a status of its own. -/
theorem Failure.IsTold.status {e : Failure} (h : e.IsTold) :
    ∃ status, Http.Response.ofFailure e = .error status e.message := by
  have hstatus : ∀ c ∈ toldCategories, ∃ status, c.status? = some status := by
    simp [toldCategories, Category.status?]
  obtain ⟨status, hs⟩ := hstatus _ (List.contains_iff_mem.1 h)
  refine ⟨status, ?_⟩
  rw [Http.Response.ofFailure, hs]

/-- Why a document cannot be read is not told. -/
theorem Failure.not_isTold_document (fault : Ini.Fault) :
    ¬(malformed (.document fault)).IsTold := by
  cases fault <;> exact Bool.false_ne_true

namespace Service

open Operation

variable {env : Environment} {t : Tables} {n : Nat} {F : Failure → Prop}

/-! ### The parts of the operations -/

/-- A secret that is not encrypted for a record is told. -/
theorem protect_tells (id : String) (v : Variant) (hF : F .encryption) :
    (request (.protect (.ofText id) v)).Tells env t n F fun _ => True := by
  refine ends_request (fun _ _ _ hasks _ _ => nomatch hasks) fun w hw => ?_
  have hprotect : env.answer w (.protect (.ofText id) v) = env.protect (.ofText id) v w := rfl
  rw [hprotect, Environment.protect]
  cases (v.protect env.settings.encryptionKey (.ofText id) env.nonce w.nonces).fault with
  | none => exact ⟨⟨hw.tables, hw.ids⟩, trivial⟩
  | some fault => exact hF

/-- **A connection test fails** because a secret is not decrypted, because of the connection, or
because there are no words for the trouble. -/
theorem probe_tells (owner : Option String) (v : Variant) (hF : ∀ e : Failure, e.IsTold → F e)
    (huntold : ¬env.circumstances.CanBeTold → F (.malformed .noPlainText)) :
    (request (.probe (owner.map .string) v)).Ends env t n (fun e _ => F e) fun _ _ => True := by
  refine ends_request (fun _ _ _ hasks _ _ => nomatch hasks) fun w _ => ?_
  have howned : ∀ fault, Failure.ofDecryption (owner.map .string) fault = .decryption := by
    intro fault
    cases owner <;> simp [Failure.ofDecryption, Cell.plainText?, Json.plainText?]
  have hfails : ∀ e, (env.report (owner.map .string) v w).outcome = .error e → F e := by
    intro e he
    rcases Probe.failure_of_test he with ⟨fault, -, rfl⟩ | ⟨b, text, rfl⟩ | rfl
    · rw [howned]
      exact hF _ rfl
    · exact hF _ rfl
    · refine huntold fun hw => ?_
      have hwords : Circumstances.CanBeTold
          { env.circumstances with freshId := env.idFrom w } := ⟨hw.answer, hw.waiting⟩
      rw [Environment.report, Probe.test, Probe.testWithin] at he
      split at he
      · have hother : Failure.decryption = .malformed .noPlainText :=
          (howned _).symm.trans (Except.error.inj he)
        cases hother
      · next plain _ =>
        obtain ⟨_, -, ⟨-, hok⟩ | ⟨text, -, hconnected⟩⟩ := Probe.testConfig_ends
          env.settings env.directory (.integer env.settings.probeTimeout) plain.backend plain.config
          env.cancelled hwords
        · cases hok.symm.trans he
        · cases hconnected.symm.trans he
  have hprobe : (env.answer w (.probe (owner.map .string) v)).1 =
      (env.report (owner.map .string) v w).outcome := rfl
  rcases ha : env.answer w (.probe (owner.map .string) v) with ⟨e | a, w'⟩
  · exact hfails e (by rw [← hprobe, ha])
  · trivial

/-! ### The operations on submissions -/

/-- The service checks this variant for the submission: the submitted one, or the stored one with
the submission merged into it. -/
def Checks (t : Tables) (s : Submission) (v : Variant) : Prop :=
  v = s.variant ∨ ∃ row r, t.find? (.ofText r.id) = some row ∧ row.Holds r ∧ s.id = some r.id ∧
    v = (r.variant.merge s.variant).variant

/-- A variant that is checked for the submission has an rclone configuration in plain text, and it
cannot be read. -/
def Garbled (t : Tables) (s : Submission) (fault : Ini.Fault) : Prop :=
  ∃ v text, Checks t s v ∧ v.backend.content? v.config = some text ∧
    Backend.isSubmitted text = true ∧ Remotes.list text = .error fault

variable {s : Submission}

/-- What is checked is refused, or it is garbled. -/
theorem validate_tells (hF : ∀ e : Failure, e.IsTold → F e)
    (hgarbled : ∀ fault, Garbled t s fault → F (.malformed (.document fault))) {v : Variant}
    (hv : Checks t s v) (isNew : Bool) :
    (lift (v.validate isNew)).Tells env t n F fun _ => True := by
  refine tells_lift fun e he => ?_
  refine Backend.failsAs_validate (fun _ => hF _ rfl) v.backend v.config isNew
    (fun text fault hcontent hsubmitted hfault => ?_) e he
  exact hgarbled fault ⟨v, text, hv, hcontent, hsubmitted, hfault⟩

/-- A record is stored, and then it is only told of. -/
theorem store_tells (ha : env.Answers) (r : Record) {f : Storage → Operation Storage}
    {line : LogLine} {actor : Actor} {workspaceId : Cell} {message : String}
    (hf : f r.reread.toStorage = log line >>= fun _ =>
      recordAudit actor workspaceId message >>= fun _ => pure r.reread.toStorage) :
    (store r.toStorage >>= f).Ends env t n (fun e _ => F e)
      fun saved _ => ∃ r : Record, saved = r.toStorage := by
  refine Ends.bind (Ends.mono (store_saves ha r) (fun _ _ h => h.elim) fun _ _ hw => hw) ?_
  rintro _ w ⟨-, rfl⟩
  rw [hf]
  exact Ends.mono (report_notes line actor workspaceId message r.reread.toStorage)
    (fun _ _ h => h.elim) fun _ _ hw => ⟨r.reread, hw.1⟩

theorem create_tells (ha : env.Answers) (hF : ∀ e : Failure, e.IsTold → F e)
    (hgarbled : ∀ fault, Garbled t s fault → F (.malformed (.document fault))) (actor : Actor)
    (workspaceId : String) :
    (create actor (.ofText workspaceId) s.toInput).Ends env t n (fun e _ => F e)
      fun saved _ => ∃ r : Record, saved = r.toStorage := by
  refine Ends.bind (S := fun _ w => w.tables = t) ?_ ?_
  · exact ends_request (fun _ _ _ hasks _ _ => nomatch hasks) fun _ hw => hw.tables
  rintro id w rfl
  have hname : s.toInput.trimmedName = .ok (Text.trim s.name) := rfl
  have hvariant : s.toInput.knownVariant = .ok s.variant := rfl
  refine Gives.bind (gives_lift hname) ?_
  refine Gives.bind (gives_lift hvariant) ?_
  refine Tells.bind (validate_tells hF hgarbled (.inl rfl) true) fun _ _ => ?_
  refine Tells.bind (protect_tells id s.variant (hF _ rfl)) fun variant _ => ?_
  let r : Record := ⟨id, workspaceId, Text.trim s.name, s.isSystem, none, variant⟩
  exact store_tells ha r rfl

theorem update_tells (ha : env.Answers) (h : t.IsNormal) (hF : ∀ e : Failure, e.IsTold → F e)
    (hgarbled : ∀ fault, Garbled t s fault → F (.malformed (.document fault))) (actor : Actor)
    (workspaceId : String) {id : String} (hid : s.id = some id) :
    (update actor (.ofText workspaceId) (.ofText id) s.toInput).Ends env t n (fun e _ => F e)
      fun saved _ => ∃ r : Record, saved = r.toStorage := by
  refine Tells.bind (get_tells ha h id fun _ => hF _ rfl) ?_
  rintro _ ⟨row, old, hfound, hold, rfl, rfl⟩
  refine Tells.bind (tells_require fun _ => hF _ rfl) fun _ _ => ?_
  refine Tells.bind (tells_require fun _ => hF _ rfl) fun _ _ => ?_
  have hcurrent : old.toStorage.knownVariant = .ok old.variant := rfl
  have hname : s.toInput.trimmedName = .ok (Text.trim s.name) := rfl
  have hvariant : s.toInput.knownVariant = .ok s.variant := rfl
  refine Gives.bind (gives_lift hcurrent) ?_
  refine Gives.bind (gives_lift hvariant) ?_
  refine Tells.bind (validate_tells hF hgarbled (.inr ⟨row, old, hfound, hold, hid, rfl⟩) _)
    fun _ _ => ?_
  refine Tells.bind (protect_tells old.id _ (hF _ rfl)) fun variant _ => ?_
  refine Gives.bind (gives_lift hname) ?_
  let r : Record := { old with name := Text.trim s.name, isSystem := s.isSystem, variant }
  exact store_tells ha r rfl

theorem save_tells (ha : env.Answers) (h : t.IsNormal) (hr : t.HasRoles)
    (hF : ∀ e : Failure, e.IsTold → F e)
    (hgarbled : ∀ fault, Garbled t s fault → F (.malformed (.document fault))) (cloudMode : Bool)
    (actor : Actor) (workspaceId : String) :
    (save cloudMode actor (.ofText workspaceId) s.toInput).Ends env t n (fun e _ => F e)
      fun _ _ => True := by
  have hpermission : ∀ reason, F (.permission reason) := fun _ => hF _ rfl
  have hname : s.toInput.trimmedName = .ok (Text.trim s.name) := rfl
  refine Tells.bind (requireManage_tells ha hr _ actor fun _ => hpermission _) fun _ _ => ?_
  refine Tells.bind (tells_require fun _ => hpermission _) fun _ _ => ?_
  refine Tells.bind (tells_require fun _ => hpermission _) fun _ _ => ?_
  refine Gives.bind (gives_lift hname) ?_
  refine Tells.bind (tells_require fun _ => hF _ rfl) fun _ _ => ?_
  refine Ends.bind (S := fun saved _ => ∃ r : Record, saved = r.toStorage) ?_ ?_
  · rw [createOrUpdate]
    split
    · next hgiven =>
      cases hid : s.id with
      | none => simp [Submission.toInput, hid, Cell.isTruthy] at hgiven
      | some id =>
        rw [Submission.id_toInput hid]
        exact update_tells ha h hF hgarbled actor workspaceId hid
    · exact create_tells ha hF hgarbled actor workspaceId
  · rintro _ w ⟨r, rfl⟩
    obtain ⟨v, hview, -⟩ := viewOf_toStorage actor r
    rw [view, hview]
    exact ends_pure fun _ _ => trivial

theorem testSubmitted_tells (ha : env.Answers) (h : t.IsNormal) (hr : t.HasRoles)
    (hF : ∀ e : Failure, e.IsTold → F e)
    (hgarbled : ∀ fault, Garbled t s fault → F (.malformed (.document fault)))
    (huntold : ¬env.circumstances.CanBeTold → F (.malformed .noPlainText)) (cloudMode : Bool)
    (actor : Actor) :
    (testSubmitted cloudMode actor s.toInput).Ends env t n (fun e _ => F e) fun _ _ => True := by
  have hpermission : ∀ reason, F (.permission reason) := fun _ => hF _ rfl
  have hvariant : s.toInput.knownVariant = .ok s.variant := rfl
  refine Tells.bind (requireView_tells ha _ actor fun _ => hpermission _) fun _ _ => ?_
  refine Tells.bind (tells_require fun _ => hpermission _) fun _ _ => ?_
  split
  · next hgiven =>
    cases hid : s.id with
    | none => simp [Submission.toInput, hid, Cell.isTruthy] at hgiven
    | some id =>
      rw [testMerged, Submission.id_toInput hid]
      refine Tells.bind (get_tells ha h id fun _ => hF _ rfl) ?_
      rintro _ ⟨row, r, hfound, hrow, rfl, rfl⟩
      have hcurrent : r.toStorage.knownVariant = .ok r.variant := rfl
      refine Tells.bind (tells_require fun _ => hpermission _) fun _ _ => ?_
      refine Tells.bind (requireManage_tells ha hr _ actor fun _ => hpermission _) fun _ _ => ?_
      refine Tells.bind (tells_require fun _ => hpermission _) fun _ _ => ?_
      refine Gives.bind (gives_lift hcurrent) ?_
      refine Gives.bind (gives_lift hvariant) ?_
      refine Tells.bind (validate_tells hF hgarbled (.inr ⟨row, r, hfound, hrow, hid, rfl⟩) _)
        fun _ _ => ?_
      exact probe_tells (some r.id) _ hF huntold
  · refine Gives.bind (gives_lift hvariant) ?_
    refine Tells.bind (validate_tells hF hgarbled (.inl rfl) true) fun _ _ => ?_
    exact probe_tells none _ hF huntold

end Service

/-! ### Requests with submissions -/

namespace Http

open Operation Service

/-- What is done with a body that is to be saved. -/
def saveBody (cloudMode : Bool) (actor : Actor) (content : Json) : Operation View := do
  let input ← lift (Input.parse (some content))
  Service.save cloudMode actor input.workspaceId input

/-- What is done with a body that is to be tested. -/
def testBody (cloudMode : Bool) (actor : Actor) (content : Json) : Operation Unit := do
  let input ← lift (Input.parse (some content))
  Service.testSubmitted cloudMode actor input

theorem run_answer {α : Type} (env : Environment) (status : Nat) (body : α → Json)
    (o : Operation α) (w : World) :
    ((answer status body o).run env w).1 = .ok (respond status body (o.run env w).1) := by
  have hanswer : answer status body o =
      attempt o >>= fun outcome => pure (respond status body outcome) := rfl
  rw [hanswer, run_bind, run_attempt]
  rfl

variable {env : Environment} {w : World}

/-- A body is read, or its caller is told what is wrong with it. -/
theorem invalid_of_parse {body : Option Json} {e : Failure} (h : Input.parse body = .error e) :
    ∃ cause, e = .invalid cause := by
  unfold Input.parse at h
  split at h
  · exact ⟨_, (Except.error.inj h).symm⟩
  · split at h
    · exact ⟨_, (Except.error.inj h).symm⟩
    · next o _ _ header _ =>
      cases hv : Variant.parse header.backend (o.get? header.backend.payloadKey) with
      | error e' =>
        rw [hv] at h
        obtain rfl := Except.error.inj h
        exact Variant.invalid_of_parse hv
      | ok v =>
        rw [hv] at h
        cases h

/-- An operation on submissions fails as it may for each of them, or the body is none. -/
theorem submission_tells {α : Type} {content : Json} {f : Input → Operation α}
    {F : Failure → Prop} (hF : ∀ e : Failure, e.IsTold → F e)
    (hf : ∀ s : Submission, Input.parse (some content) = .ok s.toInput →
      (f s.toInput).Ends env w.tables w.ids (fun e _ => F e) fun _ _ => True) {e : Failure}
    (he : ((lift (Input.parse (some content)) >>= f).run env w).1 = .error e) : F e := by
  cases hparse : Input.parse (some content) with
  | error e' =>
    rw [hparse] at he
    obtain rfl := Except.error.inj he
    obtain ⟨cause, rfl⟩ := invalid_of_parse hparse
    exact hF _ rfl
  | ok input =>
    obtain ⟨s, -, rfl⟩ := Submission.of_parse hparse
    rw [hparse] at he
    exact (hf s hparse).of_error w.at_self he

/-- Why the cause of a failure of a request with this body may not be told: the body is a submission
for which something is garbled. -/
def Untold (t : Tables) (content : Json) (e : Failure) : Prop :=
  ∃ s fault, Input.parse (some content) = .ok (Submission.toInput s) ∧ Garbled t s fault ∧
    e = .malformed (.document fault)

/-- A workspace with one storage, whose owner is a member of it. -/
def owned : World :=
  let disk : Record := ⟨"a", "w", "disk", false, none, ⟨.localDisk, {}⟩⟩
  let owner : Row :=
    ⟨[("userId", .ofText "u"), ("workspaceId", .ofText "w"), ("role", .ofText "OWNER")]⟩
  .start ⟨[disk.toRow], [owner], [], []⟩

/-- A body with an rclone configuration of which one key is quoted, and the quoted text is null. -/
def garbledBody : Json :=
  .object [("workspaceId", .string "0b7e4a52-1c1f-4a57-9a5e-3f6f2d3c4b5a"),
    ("name", .string "cloud"), ("type", .string "RCLONE"),
    ("rcloneStorage", .object [("configContent", .string "[a]\ntype=s3\n'null'=x"),
      ("remotePath", .string "")])]

/-- Nothing fails but what is submitted. -/
def calm : Environment := .undisturbed "key" (fun _ => "1") fun _ => List.replicate 12 0

theorem save_garbledBody :
    ((saveBody false ⟨.ofText "u", .admin⟩ garbledBody).run calm owned).1 =
      .error (.malformed (.document .nullKey)) := by
  have hfails : ((saveBody false ⟨.ofText "u", .admin⟩ garbledBody).run calm owned).1.map
      (fun _ => ()) = .error (.malformed (.document .nullKey)) := by
    decide +kernel
  cases hsaved : ((saveBody false ⟨.ofText "u", .admin⟩ garbledBody).run calm owned).1 with
  | ok v =>
    rw [hsaved] at hfails
    cases hfails
  | error e =>
    rw [hsaved] at hfails
    obtain rfl := Except.error.inj hfails
    rfl

/-- **The caller is told why a submission fails.**  Whoever submits whatever body to be saved or to
be tested, the rows being well formed and no table failing but perhaps the audit log: the request is
answered with the outcome, and where that is a failure its cause is told, unless an rclone
configuration in plain text cannot be read, or there are no words for the trouble with a
connection. -/
theorem submissions_told (h : w.tables.IsNormal) (hr : w.tables.HasRoles) (ha : env.Answers)
    (cloudMode : Bool) (actor : Actor) (query : List Char) (content : Json) :
    (((dispatch cloudMode actor query content .save).run env w).1 =
        .ok (respond 201 View.toJson ((saveBody cloudMode actor content).run env w).1) ∧
      ∀ e, ((saveBody cloudMode actor content).run env w).1 = .error e →
        e.IsTold ∨ Untold w.tables content e) ∧
    (((dispatch cloudMode actor query content .testSubmitted).run env w).1 =
        .ok (respond 200 (fun _ => message "successful")
          ((testBody cloudMode actor content).run env w).1) ∧
      ∀ e, ((testBody cloudMode actor content).run env w).1 = .error e →
        e.IsTold ∨ Untold w.tables content e ∨
          ¬env.circumstances.CanBeTold ∧ e = .malformed .noPlainText) := by
  refine ⟨⟨run_answer env 201 View.toJson _ w, fun e he => ?save⟩,
    run_answer env 200 _ _ w, fun e he => ?test⟩
  case save =>
    refine submission_tells (F := fun e => e.IsTold ∨ Untold w.tables content e)
      (fun _ => Or.inl) (fun s hs => ?_) he
    exact save_tells ha h hr (fun _ => Or.inl)
      (fun fault hgarbled => .inr ⟨s, fault, hs, hgarbled, rfl⟩) cloudMode actor s.workspaceId
  case test =>
    refine submission_tells (F := fun e => e.IsTold ∨ Untold w.tables content e ∨
      ¬env.circumstances.CanBeTold ∧ e = .malformed .noPlainText)
      (fun _ => Or.inl) (fun s hs => ?_) he
    exact testSubmitted_tells ha h hr (fun _ => Or.inl)
      (fun fault hgarbled => .inr (.inl ⟨s, fault, hs, hgarbled, rfl⟩))
      (fun hwords => .inr (.inr ⟨hwords, rfl⟩)) cloudMode actor

/-- The failure of the body with the quoted null is not told because of that line. -/
theorem submissions_told_garbledBody :
    Untold owned.tables garbledBody (.malformed (.document .nullKey)) := by
  have hnormal : owned.tables.IsNormal := Tables.isNormal_of_toRow (r := ⟨"a", "w", "disk", false,
    none, ⟨.localDisk, {}⟩⟩) rfl rfl
  have hroles : owned.tables.HasRoles := by
    intro row hrow
    obtain rfl := List.mem_singleton.1 hrow
    exact ⟨"OWNER", rfl⟩
  obtain ⟨⟨-, hsave⟩, -⟩ := submissions_told hnormal hroles
    (Environment.answers_undisturbed _ _ _ : calm.Answers) false ⟨.ofText "u", .admin⟩ []
    garbledBody
  exact (hsave _ save_garbledBody).resolve_left (Failure.not_isTold_document _)

/-- **One odd line is not told.**  Whoever saves it is told that something broke down. -/
theorem garbled_content_untold :
    ((dispatch false ⟨.ofText "u", .admin⟩ [] garbledBody .save).run calm owned).1 =
        .ok Response.breakdown ∧
      ((saveBody false ⟨.ofText "u", .admin⟩ garbledBody).run calm owned).1 =
        .error (.malformed (.document .nullKey)) ∧
      ¬(Failure.malformed (.document .nullKey)).IsTold := by
  refine ⟨?_, save_garbledBody, Failure.not_isTold_document _⟩
  have hresponse := run_answer calm 201 View.toJson
    (saveBody false ⟨.ofText "u", .admin⟩ garbledBody) owned
  rw [save_garbledBody] at hresponse
  exact hresponse

end Http

end Depository
