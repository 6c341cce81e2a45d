import Depository.Proofs.Service.Parts
import Depository.Service.Save

/-!
# What saving a storage does

A storage is submitted in a form that is read from a body, `Submission`.  Saving it either fails
with the tables as they were, or it puts one record into the table of storages, which is a new one
(`Service.Created`) or the stored one changed (`Service.Updated`).  The checks that come before say
who may do that, `Service.MaySave`.

What is saved is noted in the audit log, so long as this can be written to; the operation does not
depend on it.  That is said in `Service.save_notes`, and that much holds in legible tables.

The main statement is `Service.save_ends`; it holds whichever questions to tables fail.
-/

namespace Depository

/-! ### Submissions -/

/-- A submitted storage of the form that bodies are read to. -/
structure Submission where
  /-- The storage to update, if it is not a new one. -/
  id : Option String
  workspaceId : String
  name : String
  isSystem : Bool
  variant : Variant

namespace Submission

/-- The submission as operations take it. -/
def toInput (s : Submission) : Input where
  id := s.id.map .string
  workspaceId := .ofText s.workspaceId
  name := .ofText s.name
  isSystem := some (.bool s.isSystem)
  variant := some s.variant

theorem id_toInput {s : Submission} {id : String} (h : s.id = some id) :
    s.toInput.id = .ofText id := by
  rw [toInput, h]
  rfl

/-- The submission names no storage, or it names one. -/
theorem id_cases (s : Submission) :
    (s.id = none ∨ s.id = some "") ∧ s.toInput.id.isTruthy = false ∨
      ∃ id, s.id = some id ∧ id ≠ "" ∧ s.toInput.id.isTruthy = true := by
  cases h : s.id with
  | none => exact .inl ⟨.inl rfl, by simp [toInput, h, Cell.isTruthy]⟩
  | some id =>
    have hid : s.toInput.id = .ofText id := id_toInput h
    by_cases hempty : id = ""
    · subst hempty
      exact .inl ⟨.inr rfl, by rw [hid]; rfl⟩
    · exact .inr ⟨id, rfl, hempty, by rw [hid]; exact Cell.isTruthy_ofText.2 hempty⟩

/-- How the audit log begins to tell that the submission was saved. -/
def notice (s : Submission) : String :=
  if s.toInput.id.isTruthy then "Storage updated: " else "Storage created: "

/-- The configuration of the submission was read from a submitted one. -/
def IsNormal (s : Submission) : Prop := s.variant.IsNormal

/-- What is read from a body is a submission, and its configuration is in normal form. -/
theorem of_parse {body : Option Json} {i : Input} (h : Input.parse body = .ok i) :
    ∃ s : Submission, s.IsNormal ∧ i = s.toInput := by
  unfold Input.parse at h
  split at h
  · cases h
  · split at h
    · cases h
    · rename_i o _ _ header _
      cases hv : Variant.parse header.backend (o.get? header.backend.payloadKey) with
      | error e => simp [hv, bind, Except.bind] at h
      | ok v =>
        simp only [hv, bind, Except.bind, pure, Except.pure, Except.ok.injEq] at h
        exact ⟨⟨header.id, header.workspaceId, header.name, header.isSystem, v⟩,
          Variant.isNormal_of_parse hv, h.symm⟩

/-- The submission was read from a body. -/
def IsParsed (s : Submission) : Prop := ∃ body, Input.parse body = .ok s.toInput

theorem IsParsed.isNormal {s : Submission} (h : s.IsParsed) : s.IsNormal := by
  obtain ⟨body, hbody⟩ := h
  obtain ⟨s', hs', hinput⟩ := of_parse hbody
  have hvariant : s.variant = s'.variant := Option.some.inj (congrArg Input.variant hinput)
  rw [IsNormal, hvariant]
  exact hs'

/-- A new storage on an FTP server. -/
def backups : Submission :=
  ⟨none, "00000000-0000-4000-8000-000000000000", "backups", false,
    ⟨.ftp, ⟨"host", 21, "user", "secret", false, false, ""⟩⟩⟩

theorem isParsed_backups : backups.IsParsed :=
  ⟨some (.object [("workspaceId", .string backups.workspaceId), ("name", .string backups.name),
    ("type", .string "FTP"), ("ftpStorage", backups.variant.payload)]), rfl⟩

end Submission

namespace Service

open Operation

/-! ### What is checked, and what is stored -/

/-- The actor may save the submission in the workspace. -/
structure MaySave (cloudMode : Bool) (actor : Actor) (workspaceId : String) (s : Submission)
    (t : Tables) : Prop where
  manage : mayManage actor (t.role (.ofText workspaceId) actor.id) = .ok true
  localDisk : cloudMode = true → s.variant.backend = .localDisk → actor.isGlobalAdmin = true
  system : s.isSystem = true → actor.isGlobalAdmin = true
  named : Text.trim s.name ≠ ""

/-- The record is made new from the submission, under the id of number `n`. -/
structure Created (env : Environment) (n : Nat) (workspaceId : String) (s : Submission)
    (r : Record) : Prop where
  asked : s.id = none ∨ s.id = some ""
  valid : s.variant.validate true = .ok ()
  record : r = ⟨env.freshId n, workspaceId, Text.trim s.name, s.isSystem, none, r.variant⟩
  protected_ : s.variant.Protects env.settings.encryptionKey (.ofText r.id) env.nonce r.variant

/-- The record is the stored one of the id of the submission, updated. -/
structure Updated (env : Environment) (t : Tables) (workspaceId : String) (s : Submission)
    (old r : Record) : Prop where
  asked : s.id = some old.id
  given : old.id ≠ ""
  found : ∃ row, t.find? (.ofText old.id) = some row ∧ row.Holds old
  owned : old.workspaceId = workspaceId
  stays : old.isSystem = true → s.isSystem = true
  valid : (old.variant.merge s.variant).variant.validate
    (old.variant.merge s.variant).replaced = .ok ()
  record : r = { old with name := Text.trim s.name, isSystem := s.isSystem, variant := r.variant }
  protected_ : (old.variant.merge s.variant).variant.Protects env.settings.encryptionKey
    (.ofText old.id) env.nonce r.variant

variable {env : Environment} {t : Tables} {n : Nat}

/-! ### Creating and updating -/

/-- What is told of a saved record is told before the record is returned. -/
theorem report_notes (line : LogLine) (actor : Actor) (workspaceId : Cell) (message : String)
    {α : Type} (a : α) :
    (log line >>= fun _ => recordAudit actor workspaceId message >>= fun _ => pure a).Ends env t n
      (fun _ _ => False)
      (fun b w => b = a ∧ Noted env t ⟨message, actor.id, workspaceId⟩ w.tables) := by
  have hassoc : (log line >>= fun _ => recordAudit actor workspaceId message >>= fun _ => pure a) =
      (log line >>= fun _ => recordAudit actor workspaceId message) >>= fun _ => pure a :=
    (bind_bind _ _ _).symm
  rw [hassoc]
  refine Ends.bind (tell_notes line actor workspaceId message) ?_
  exact fun _ w hw => ends_pure fun w' hw' => ⟨rfl, by rw [hw'.tables]; exact hw⟩

/-- **A creation puts a new record into the table and notes it**, or leaves the tables as they
were. -/
theorem create_notes (actor : Actor) (workspaceId : String) (s : Submission)
    (hid : s.id = none ∨ s.id = some "") :
    (create actor (.ofText workspaceId) s.toInput).Ends env t n (fun _ w => w.tables = t)
      (fun saved w => ∃ r, Created env n workspaceId s r ∧ saved = r.reread.toStorage ∧
        Noted env (t.save r.toRow) ⟨"Storage created: " ++ r.name, actor.id, .ofText workspaceId⟩
          w.tables) := by
  refine Ends.bind (S := fun id w => id = env.freshId n ∧ w.tables = t) ?_ ?_
  · refine ends_request (fun _ _ _ hasks _ _ => nomatch hasks) fun w hw => ?_
    exact ⟨congrArg env.freshId hw.ids, hw.tables⟩
  rintro _ w ⟨rfl, rfl⟩
  -- whatever is checked and encrypted comes before the table is changed
  refine Reads.bind (reads_lift _) (fun _ _ hw => hw.tables) ?_
  intro name hname
  obtain rfl := Except.ok.inj hname
  refine Reads.bind (reads_lift _) (fun _ _ hw => hw.tables) ?_
  intro submitted hsubmitted
  obtain rfl := Except.ok.inj hsubmitted
  refine Reads.bind (reads_lift _) (fun _ _ hw => hw.tables) ?_
  intro _ hvalid
  refine Reads.bind (protect_reads _ _) (fun _ _ hw => hw.tables) ?_
  intro variant hprotected
  let r : Record := ⟨env.freshId n, workspaceId, Text.trim s.name, s.isSystem, none, variant⟩
  refine Ends.bind (Ends.mono (store_ends r) (fun _ _ hw => hw.tables) fun _ _ hw => hw) ?_
  rintro _ w' ⟨hw', rfl⟩
  rw [hw'.tables]
  refine Ends.mono (report_notes _ actor _ _ r.reread.toStorage) (fun _ _ h => h.elim) ?_
  rintro _ w'' ⟨rfl, hnoted⟩
  exact ⟨r, ⟨hid, hvalid, rfl, hprotected⟩, rfl, hnoted⟩

/-- **An update puts the changed record over the stored one and notes it**, or leaves the tables as
they were. -/
theorem update_notes (h : t.IsLegible) (actor : Actor) (workspaceId id : String) (s : Submission)
    (hid : s.id = some id) (hne : id ≠ "") :
    (update actor (.ofText workspaceId) (.ofText id) s.toInput).Ends env t n
      (fun _ w => w.tables = t)
      (fun saved w => ∃ r, (t.IsNormal → ∃ old, Updated env t workspaceId s old r) ∧
        r.workspaceId = workspaceId ∧ saved = r.reread.toStorage ∧
        Noted env (t.save r.toRow) ⟨"Storage updated: " ++ r.name, actor.id, .ofText workspaceId⟩
          w.tables) := by
  refine Reads.bind (get_legible h _) (fun _ _ hw => hw.tables) ?_
  rintro _ ⟨row, old, hfound, hrow, hidold, rfl⟩
  -- the old record decides whether it may be updated, and what of it stays
  refine Reads.bind (reads_require _ _) (fun _ _ hw => hw.tables) ?_
  intro _ howned
  refine Reads.bind (reads_require _ _) (fun _ _ hw => hw.tables) ?_
  intro _ hstays
  refine Reads.bind (reads_lift _) (fun _ _ hw => hw.tables) ?_
  intro current hcurrent
  obtain rfl := Except.ok.inj hcurrent
  refine Reads.bind (reads_lift _) (fun _ _ hw => hw.tables) ?_
  intro submitted hsubmitted
  obtain rfl := Except.ok.inj hsubmitted
  refine Reads.bind (reads_lift _) (fun _ _ hw => hw.tables) ?_
  intro _ hvalid
  refine Reads.bind (protect_reads _ _) (fun _ _ hw => hw.tables) ?_
  intro variant hprotected
  refine Reads.bind (reads_lift _) (fun _ _ hw => hw.tables) ?_
  intro name hname
  obtain rfl := Except.ok.inj hname
  let r : Record := { old with name := Text.trim s.name, isSystem := s.isSystem, variant }
  refine Ends.bind (Ends.mono (store_ends r) (fun _ _ hw => hw.tables) fun _ _ hw => hw) ?_
  rintro _ w' ⟨hw', rfl⟩
  rw [hw'.tables]
  refine Ends.mono (report_notes _ actor _ _ r.reread.toStorage) (fun _ _ h => h.elim) ?_
  rintro _ w'' ⟨rfl, hnoted⟩
  have hideq : id = old.id := by simpa [Cell.ofText] using hidold
  have howner : old.workspaceId = workspaceId := by
    simpa [Record.toStorage, Cell.ofText] using Cell.same_ofText.1 howned
  have hsystem : old.isSystem = true → s.isSystem = true := by
    intro hold
    simpa [hold, Submission.toInput, Cell.isTruthy, Json.isTruthy] using hstays
  refine ⟨r, fun hnormal => ⟨old, ?_⟩, howner, rfl, hnoted⟩
  have hholds := hnormal.holds_of_readAs hfound hrow
  exact ⟨hideq ▸ hid, hideq ▸ hne, ⟨row, hidold ▸ hfound, hholds⟩, howner, hsystem, hvalid, rfl,
    hprotected⟩

/-! ### Saving -/

/-- The record that a submission is saved as: a new one, or the stored one updated. -/
def SavedAs (env : Environment) (t : Tables) (n : Nat) (workspaceId : String) (s : Submission)
    (r : Record) : Prop :=
  Created env n workspaceId s r ∨ ∃ old, Updated env t workspaceId s old r

/-- What a submission is saved as is noted, in words that tell whether it is a new one. -/
theorem createOrUpdate_notes (h : t.IsLegible) (actor : Actor) (workspaceId : String)
    (s : Submission) :
    (createOrUpdate actor (.ofText workspaceId) s.toInput).Ends env t n (fun _ w => w.tables = t)
      (fun saved w => ∃ r, (t.IsNormal → SavedAs env t n workspaceId s r) ∧
        r.workspaceId = workspaceId ∧ saved = r.reread.toStorage ∧
        Noted env (t.save r.toRow) ⟨s.notice ++ r.name, actor.id, .ofText workspaceId⟩
          w.tables) := by
  rw [createOrUpdate, Submission.notice]
  rcases s.id_cases with ⟨hnew, hfalsy⟩ | ⟨id, hid, hne, htruthy⟩
  · rw [if_neg (by simp [hfalsy]), if_neg (by simp [hfalsy])]
    refine Ends.mono (create_notes actor workspaceId s hnew) (fun _ _ hw => hw) ?_
    rintro saved w ⟨r, hcreated, hrest⟩
    have howned : r.workspaceId = workspaceId := by rw [hcreated.record]
    exact ⟨r, fun _ => .inl hcreated, howned, hrest⟩
  · rw [if_pos htruthy, if_pos htruthy, Submission.id_toInput hid]
    refine Ends.mono (update_notes h actor workspaceId id s hid hne) (fun _ _ hw => hw) ?_
    rintro saved w ⟨r, hupdated, hrest⟩
    exact ⟨r, fun hnormal => .inr (hupdated hnormal), hrest⟩

/-- What everyone sees of a stored record comes to a view, which has the id of the record. -/
theorem viewOf_toStorage (actor : Actor) (r : Record) :
    ∃ v, viewOf actor r.toStorage = .ok v ∧ v.id = .ofText r.id := ⟨_, rfl, rfl⟩

/-- What saving answers is what the actor sees of the record that was put into the table, and that
record is noted. -/
theorem save_notes (h : t.IsLegible) (cloudMode : Bool) (actor : Actor) (workspaceId : String)
    (s : Submission) :
    (save cloudMode actor (.ofText workspaceId) s.toInput).Ends env t n (fun _ w => w.tables = t)
      (fun v w => MaySave cloudMode actor workspaceId s t ∧
        ∃ r, (t.IsNormal → SavedAs env t n workspaceId s r) ∧ r.workspaceId = workspaceId ∧
          viewOf actor r.reread.toStorage = .ok v ∧
          Noted env (t.save r.toRow) ⟨s.notice ++ r.name, actor.id, .ofText workspaceId⟩
            w.tables) := by
  refine Reads.bind (requireManage_reads _ actor _) (fun _ _ hw => hw.tables) ?_
  intro _ hmanage
  refine Reads.bind (requireLocal_reads cloudMode actor s.variant) (fun _ _ hw => hw.tables) ?_
  intro _ hlocal
  refine Reads.bind (requireSystem_reads actor s.isSystem) (fun _ _ hw => hw.tables) ?_
  intro _ hsystem
  refine Reads.bind (reads_lift _) (fun _ _ hw => hw.tables) ?_
  intro name hname
  obtain rfl := Except.ok.inj hname
  refine Reads.bind (reads_require _ _) (fun _ _ hw => hw.tables) ?_
  intro _ hnamed
  refine Ends.bind (createOrUpdate_notes h actor workspaceId s) ?_
  rintro _ w ⟨r, hsaved, howned, rfl, hnoted⟩
  -- of a stored record there is always a view, so what was saved is not told to have failed
  obtain ⟨v, hview, -⟩ := viewOf_toStorage actor r.reread
  rw [view, hview]
  exact ends_pure fun w' hw' => ⟨⟨hmanage, hlocal, hsystem, by simpa using hnamed⟩, r, hsaved,
    howned, hview, by rw [hw'.tables]; exact hnoted⟩

/-- What saving answers is what the actor sees of the record that was put into the table. -/
theorem save_shows (env : Environment) (h : t.IsNormal) (cloudMode : Bool) (actor : Actor)
    (workspaceId : String) (s : Submission) :
    (save cloudMode actor (.ofText workspaceId) s.toInput).Ends env t n (fun _ w => w.tables = t)
      (fun v w => MaySave cloudMode actor workspaceId s t ∧
        ∃ r audit, SavedAs env t n workspaceId s r ∧ viewOf actor r.reread.toStorage = .ok v ∧
          w.tables = (t.save r.toRow).withAudit audit) := by
  refine Ends.mono (save_notes h.isLegible cloudMode actor workspaceId s) (fun _ _ hw => hw) ?_
  rintro v w ⟨hmay, r, hsaved, -, hview, hnoted⟩
  obtain ⟨audit, htables⟩ := hnoted.withAudit
  exact ⟨hmay, r, audit, hsaved h, hview, htables⟩

/-- **Saving either fails with the tables as they were, or puts one record into the table**, and
then the actor was allowed to do so. -/
theorem save_ends (h : t.IsNormal) (cloudMode : Bool) (actor : Actor) (workspaceId : String)
    (s : Submission) :
    (save cloudMode actor (.ofText workspaceId) s.toInput).Ends env t n (fun _ w => w.tables = t)
      (fun _ w => MaySave cloudMode actor workspaceId s t ∧
        ∃ r audit, SavedAs env t n workspaceId s r ∧
          w.tables = (t.save r.toRow).withAudit audit) := by
  refine Ends.mono (save_shows env h cloudMode actor workspaceId s) (fun _ _ hw => hw) ?_
  rintro _ w ⟨hmay, r, audit, hsaved, -, htables⟩
  exact ⟨hmay, r, audit, hsaved, htables⟩

end Service

end Depository
