import Depository.Proofs.Service.Authorisation
import Depository.Proofs.Service.Normality
import Depository.Proofs.Service.Succeeds
import Depository.Proofs.Service.Wire

/-!
# Saving what was read changes nothing

A view can be sent back as it is.  It shows no secrets, but a secret that is left empty is kept; it
is trimmed and valid, since only such records are stored; and what it is merged into has nothing
left to encrypt.  So the record that is saved is the one that was there, its row is the same down to
the ciphertexts, and the view that is answered is the one that was sent
(`Service.save_read_unchanged`).

* `Record.shown` — what those see of a record who may save it;
* `Record.echoed` — the submission that is read from that, by `Record.parse_shown`;
* `Service.save_echo` — saving it, step by step.
-/

namespace Depository

namespace Record

/-- What those see of a record who may save it. -/
def shown (r : Record) : View where
  id := .ofText r.id
  workspaceId := .ofText r.workspaceId
  name := .ofText r.name
  type := .ofText r.variant.typeName
  isSystem := some (.bool r.isSystem)
  lastSaveError := Storage.testOutcome r.lastSaveError
  payload := .shown r.variant.backend (some r.variant.hide.payload)

/-- The submission that such a view is. -/
def echoed (r : Record) : Submission :=
  ⟨some r.id, r.workspaceId, r.name, r.isSystem, r.variant.hide⟩

variable {r : Record}

/-- Those who may save a record see it as it is, but for its secrets. -/
theorem shown_eq (r : Record) : r.shown = exposed { r with variant := r.variant.hide } := by
  have hpayload := exposed_payload { r with variant := r.variant.hide }
  dsimp only at hpayload
  rw [shown]
  exact congrArg (View.mk _ _ _ _ _ _) hpayload.symm

/-- A system storage is shown to administrators only, and any other one to all who come so far. -/
theorem viewOf_toStorage_eq {actor : Actor}
    (h : r.isSystem = true → actor.isGlobalAdmin = true) :
    Service.viewOf actor r.toStorage = .ok r.shown := by
  have hshown : (r.toStorage.isShared && !actor.isGlobalAdmin) = false := by
    rw [isShared_toStorage]
    cases hs : r.isSystem with
    | true => rw [h hs]; rfl
    | false => rfl
  rw [Service.viewOf, hshown, shown_eq]
  rfl

/-- **What is sent of a sound record is read as the submission of just that.** -/
theorem parse_shown (h : r.IsSound) (hid : Text.isUuid r.id = true)
    (hworkspace : Text.isUuid r.workspaceId = true) :
    Input.parse (some r.shown.toJson) = .ok r.echoed.toInput := by
  rw [shown_eq]
  exact parse_exposed hid hworkspace h.trimmed (Variant.isNormal_hide h.variant.normal)

end Record

namespace Service

open Operation

variable {env : Environment} {t : Tables} {n : Nat} {row : Row} {r : Record} {actor : Actor}

/-- A record is read by all who may save it. -/
theorem read_gives (ha : env.Answers) (hf : t.find? (.ofText r.id) = some row) (hr : row.Holds r)
    (hmanage : mayManage actor (t.role (.ofText r.workspaceId) actor.id) = .ok true)
    (hsystem : r.isSystem = true → actor.isGlobalAdmin = true) :
    (read actor (.ofText r.id)).Gives env t n r.shown := by
  refine read_shows ha hf hr.ofRow (.inr ?_) (Record.viewOf_toStorage_eq hsystem)
  rw [mayView, Bool.or_eq_true]
  exact views_of_mayManage hmanage

/-- **The update that was read makes the record that is there**, and is noted in the audit log. -/
theorem update_echo (ha : env.Answers) (hs : r.IsSound) (hf : t.find? (.ofText r.id) = some row)
    (hr : row.Holds r) :
    (update actor (.ofText r.workspaceId) (.ofText r.id) r.echoed.toInput).Ends env t n
      (fun _ _ => False) (fun saved w => saved = r.toStorage ∧
        Noted env t ⟨"Storage updated: " ++ r.name, actor.id, .ofText r.workspaceId⟩ w.tables) := by
  refine Gives.bind (get_gives ha hf hr) ?_
  refine Gives.bind (gives_require _ (Cell.same_ofText.2 rfl)) ?_
  refine Gives.bind (gives_require _ ?_) ?_
  · rw [Record.isShared_toStorage]
    cases hsystem : r.isSystem <;>
      simp [Record.echoed, Submission.toInput, hsystem, Cell.isTruthy, Json.isTruthy]
  refine Gives.bind (a := r.variant) (gives_lift rfl) ?_
  refine Gives.bind (a := r.variant.hide) (gives_lift rfl) ?_
  -- nothing is left to be overwritten or encrypted
  rw [Variant.merge_hide]
  refine Gives.bind (gives_lift hs.variant.valid_update) ?_
  refine Gives.bind (protect_gives ha _ hs.variant) ?_
  have hname : r.echoed.toInput.trimmedName = .ok r.name := congrArg Except.ok hs.trimmed
  refine Gives.bind (gives_lift hname) ?_
  refine Ends.bind (store_saves ha r) ?_
  rintro _ w ⟨hw, rfl⟩
  rw [Record.reread_of_isNormal hs.variant.normal, hw.tables, Tables.save_of_holds hf hr]
  refine Gives.bind (a := r.variant) (gives_lift rfl) ?_
  refine Gives.bind (gives_told r.id) (Gives.bind (gives_told r.workspaceId) ?_)
  refine Gives.bind (gives_log _) (Gives.bind (gives_told r.name) ?_)
  refine Ends.bind (recordAudit_notes actor _ _) ?_
  intro _ w' hw'
  exact ends_pure fun w'' hw'' => ⟨rfl, by rw [hw''.tables]; exact hw'⟩

theorem save_echo (ha : env.Answers) (hs : r.IsSound) (hne : r.id ≠ "")
    (hf : t.find? (.ofText r.id) = some row) (hr : row.Holds r) {cloudMode : Bool}
    (hmanage : mayManage actor (t.role (.ofText r.workspaceId) actor.id) = .ok true)
    (hlocal : cloudMode = true → r.variant.backend = .localDisk → actor.isGlobalAdmin = true)
    (hsystem : r.isSystem = true → actor.isGlobalAdmin = true) :
    (save cloudMode actor (.ofText r.workspaceId) r.echoed.toInput).Ends env t n
      (fun _ _ => False) (fun v w => v = r.shown ∧
        Noted env t ⟨"Storage updated: " ++ r.name, actor.id, .ofText r.workspaceId⟩ w.tables) := by
  refine Gives.bind (requireManage_gives ha _ hmanage) ?_
  refine Gives.bind (requireLocal_gives (v := r.variant.hide) hlocal) ?_
  refine Gives.bind (requireSystem_gives hsystem) ?_
  have hname : r.echoed.toInput.trimmedName = .ok r.name := congrArg Except.ok hs.trimmed
  refine Gives.bind (gives_lift hname) ?_
  refine Gives.bind (gives_require _ (by simpa using hs.named)) ?_
  have hid : r.echoed.toInput.id.isTruthy = true := by
    simpa [Record.echoed, Submission.toInput, Cell.isTruthy, Json.isTruthy] using hne
  rw [createOrUpdate, if_pos hid]
  refine Ends.bind (update_echo ha hs hf hr) ?_
  rintro _ w ⟨rfl, hw⟩
  refine Ends.mono (gives_lift (Record.viewOf_toStorage_eq hsystem)) (fun _ _ h => h) ?_
  rintro v w' ⟨hw', rfl⟩
  exact ⟨rfl, by rw [hw'.tables]; exact hw⟩

/-- **Saving what was read changes nothing.**  In reachable tables, take a row of which the id and
the workspace are UUIDs, and an actor who may manage the workspace, and who is a global
administrator where the row is of a system storage, or on local disk in a shared service.  The view
that he reads is read back from a body, and saving it in its workspace succeeds, answers the same
view and leaves every row of the table as it is.  Where the audit log works it has one more entry,
which tells of the update, and nothing else is changed. -/
theorem save_read_unchanged {pool : List (Operation Unit)} (h : Reachable t pool)
    (hrow : row ∈ t.storages) {id workspaceId : String} (hid : row.get? "id" = .ofText id)
    (hworkspace : row.get? "workspaceId" = .ofText workspaceId) (hu : Text.isUuid id = true)
    (hw : Text.isUuid workspaceId = true) (cloudMode : Bool)
    (hmanage : mayManage actor (t.role (.ofText workspaceId) actor.id) = .ok true)
    (hsystem : row.get? "isSystem" = some (.bool true) → actor.isGlobalAdmin = true)
    (hlocal : cloudMode = true → row.get? "type" = .ofText Backend.localDisk.name →
      actor.isGlobalAdmin = true) :
    ∃ (v : View) (input : Input) (name : String),
      row.get? "name" = .ofText name ∧ v.workspaceId = .ofText workspaceId ∧
      Input.parse (some v.toJson) = .ok input ∧
      (∀ (env : Environment) (w : World), env.Answers → w.tables = t →
        ((read actor (.ofText id)).run env w).1 = .ok v ∧
        ((read actor (.ofText id)).run env w).2.tables = t) ∧
      ∀ (env : Environment) (w : World), env.Answers → w.tables = t →
        ((save cloudMode actor v.workspaceId input).run env w).1 = .ok v ∧
        ((save cloudMode actor v.workspaceId input).run env w).2.tables.storages = t.storages ∧
        ((∀ k entry, env.fault k (.saveAudit entry) = none) →
          ∃ entry, ((save cloudMode actor v.workspaceId input).run env w).2.tables = t.note entry ∧
            entry.Tells ⟨"Storage updated: " ++ name, actor.id, .ofText workspaceId⟩) := by
  obtain ⟨r, hr, hs⟩ := h.isSound row hrow
  obtain rfl : id = r.id := by simpa [Cell.ofText] using hid.symm.trans hr.id
  obtain rfl : workspaceId = r.workspaceId := by
    simpa [Cell.ofText] using hworkspace.symm.trans hr.workspaceId
  have hf := h.isNormal.find? hrow hr
  have hsystem' : r.isSystem = true → actor.isGlobalAdmin = true := fun hshared =>
    hsystem (by rw [hr.isSystem, hshared])
  have hlocal' : cloudMode = true → r.variant.backend = .localDisk →
      actor.isGlobalAdmin = true := fun hcloud hdisk =>
    hlocal hcloud (by rw [hr.type, Variant.typeName, hdisk])
  have hne : r.id ≠ "" := by
    intro hempty
    rw [hempty] at hu
    exact absurd hu (by decide)
  refine ⟨r.shown, r.echoed.toInput, r.name, hr.name, rfl, Record.parse_shown hs hu hw, ?read,
    ?save⟩
  case read =>
    rintro env w ha rfl
    obtain ⟨hout, hw'⟩ := (read_gives ha hf hr hmanage hsystem').run w.at_self
    exact ⟨hout, hw'.tables⟩
  case save =>
    rintro env w ha rfl
    rcases (save_echo ha hs hne hf hr hmanage hlocal' hsystem').run w.at_self with
      ⟨v, hout, rfl, hnoted⟩ | ⟨e, -, hfalse⟩
    · refine ⟨hout, ?_, fun hworks => ?_⟩
      · obtain ⟨audit, htables⟩ := hnoted.withAudit
        exact (congrArg Tables.storages htables).trans (Tables.storages_withAudit ..)
      · rcases hnoted with ⟨-, k, entry, m, hfault⟩ | ⟨entry, hentry⟩
        · rw [hworks] at hfault
          cases hfault
        · exact ⟨entry, hentry⟩
    · exact hfalse.elim

/-- The global administrator who made a storage on an FTP server saves what he reads of it. -/
theorem save_read_unchanged_backups :
    let id := "00000000-0000-4000-8000-000000000001"
    let env := Environment.undisturbed "key" (fun _ => id) fun _ => List.replicate 12 0
    let admin : Actor := ⟨.ofText "u", .admin⟩
    let t := ((Request.saveBackups.program false).run env (.start ⟨[], [], [], []⟩)).2.tables
    t.storages.length = 1 ∧
      ∃ v input, ((read admin (.ofText id)).run env (.start t)).1 = .ok v ∧
        Input.parse (some v.toJson) = .ok input ∧
        ((save true admin v.workspaceId input).run env (.start t)).1 = .ok v ∧
        ((save true admin v.workspaceId input).run env (.start t)).2.tables.storages =
          t.storages := by
  intro id env admin t
  have hquiet : env.IsQuiet := Environment.isQuiet_undisturbed _ _ _
  have hanswers : env.Answers := Environment.answers_undisturbed _ _ _
  have hcall : Reachable (World.start ⟨[], [], [], []⟩).tables ([] ++ _ :: []) :=
    .call false Request.saveBackups Request.isParsed_saveBackups (.start rfl)
  have hreachable := hcall.run env (.start ⟨[], [], [], []⟩) hquiet
  have hthere : (t.storages.any fun row => row.has "id" (.ofText id) &&
      row.has "workspaceId" (.ofText Submission.backups.workspaceId)) = true := by decide +kernel
  obtain ⟨row, hrow, hcells⟩ := List.any_eq_true.1 hthere
  obtain ⟨hid, hworkspace⟩ := Bool.and_eq_true_iff.1 hcells
  have hmanage : mayManage admin
      (t.role (.ofText Submission.backups.workspaceId) admin.id) = .ok true := rfl
  obtain ⟨v, input, _, -, -, hparse, hread, hsave⟩ := save_read_unchanged hreachable hrow
    (Cell.same_ofText.1 hid) (Cell.same_ofText.1 hworkspace) (by decide) (by decide) true hmanage
    (fun _ => rfl) fun _ _ => rfl
  obtain ⟨hagain, hsame, -⟩ := hsave env (.start t) hanswers rfl
  exact ⟨by decide +kernel, v, input, (hread env (.start t) hanswers rfl).1, hparse, hagain, hsame⟩

end Service

end Depository
