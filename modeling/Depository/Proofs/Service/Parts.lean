import Depository.Probe.Script
import Depository.Proofs.Service.Ends
import Depository.Proofs.Service.Legible
import Depository.Service.Access
import Depository.Service.Records

/-!
# The parts that operations are made of

Every operation of the service is put together from a few parts: rights are looked up, storages are
found and listed, one is stored, and what was done is told.  Here is what each part comes to, one
statement for each of them, so that the operations can be gone through without opening it.

* `Environment.IsQuiet` — nobody changes the tables while a connection test runs;
* `Service.storages_perform` — instructions that leave the table of storages alone;
* `Service.get_loads`, `Service.store_puts` — finding a storage and storing it, whatever the rows
  are like; `Service.get_legible`, `Service.get_reads`, `Service.store_ends` — the same for records
  in a legible and in a normal table;
* `Service.list_reads`, `Service.requireManage_reads` and its like — parts that change nothing;
* `Service.recordAudit_notes` — the part that cannot fail, and what it writes (`Service.Noted`);
* `Service.probe_ends` — connection tests, while which nobody else changes anything.
-/

namespace Depository

/-- Nobody changes the tables while a connection test runs. -/
def Environment.IsQuiet (env : Environment) : Prop := ∀ report t, env.meanwhile report t = t

namespace Environment

/-- Nothing fails, every connection is there, and nobody else is at work. -/
def undisturbed (encryptionKey : String) (freshId : Nat → String) (nonce : Nat → Bytes) :
    Environment where
  settings := .defaults encryptionKey
  directory := "/data/backups"
  freshId := freshId
  nonce := nonce
  fault _ _ := none
  cancelled := false
  circumstances := (Script.allWell freshId).circumstances
  meanwhile _ t := t

/-- Taking an id for a row changes no table. -/
theorem tables_identify (env : Environment) (row : Row) (w : World) :
    (env.identify row w).2.tables = w.tables := by
  rw [identify]
  split <;> rfl

/-- Encrypting secrets changes no table. -/
theorem tables_protect (env : Environment) (owner : Cell) (v : Variant) (w : World) :
    (env.protect owner v w).2.tables = w.tables := by
  rw [protect]
  split <;> rfl

theorem isQuiet_undisturbed (encryptionKey : String) (freshId : Nat → String)
    (nonce : Nat → Bytes) : (undisturbed encryptionKey freshId nonce).IsQuiet := fun _ _ => rfl

end Environment

/-- The row tells what the entry of the audit log is to tell. -/
structure Row.Tells (row : Row) (entry : AuditEntry) : Prop where
  message : row.get? "message" = .ofText entry.message
  userId : row.get? "userId" = entry.userId
  workspaceId : row.get? "workspaceId" = entry.workspaceId

namespace Tables

/-- The tables with another audit log. -/
def withAudit (t : Tables) (audit : List Row) : Tables := { t with audit }

@[simp] theorem storages_withAudit (t : Tables) (audit : List Row) :
    (t.withAudit audit).storages = t.storages := rfl

end Tables

namespace Service

open Operation

variable {env : Environment} {t : Tables} {n : Nat}

/-! ### Instructions -/

theorem reads_request {i : Instruction} {P : i.Answer → Prop}
    (h : ∀ w : World, w.At t n →
      match env.answer w i with
      | (.ok a, w) => w.At t n ∧ P a
      | (.error _, w) => w.At t n) : (request i).Reads env t n P :=
  ends_request (fun _ _ _ _ _ hw => hw) h

/-- Only two instructions change the table of storages. -/
theorem storages_answer (hq : env.IsQuiet) (w : World) {i : Instruction}
    (hsave : ∀ row, i ≠ .saveStorage row) (hdelete : ∀ id, i ≠ .deleteStorage id) :
    (env.answer w i).2.tables.storages = w.tables.storages := by
  cases i with
  | findStorage | listStorages | findRole | findDatabases | drawId | log => rfl
  | saveStorage row => exact absurd rfl (hsave row)
  | deleteStorage id => exact absurd rfl (hdelete id)
  | saveAudit entry =>
    show (env.identify entry w).2.tables.storages = w.tables.storages
    rw [env.tables_identify]
  | protect owner v => exact congrArg Tables.storages (env.tables_protect owner v w)
  | probe owner v => exact congrArg Tables.storages (hq _ _)

/-- Whether such an instruction is answered or fails, the table of storages stays as it is. -/
theorem storages_perform (hq : env.IsQuiet) (w : World) {i : Instruction}
    (hsave : ∀ row, i ≠ .saveStorage row) (hdelete : ∀ id, i ≠ .deleteStorage id) :
    (env.perform w i).2.tables.storages = w.tables.storages := by
  rw [Environment.perform]
  cases env.faultOf w i with
  | some message => rfl
  | none => exact storages_answer hq _ hsave hdelete

theorem findStorage_reads (id : Cell) :
    (request (.findStorage id)).Reads env t n fun row => row = t.find? id :=
  reads_request fun _ hw => ⟨hw, congrArg (Tables.find? id) hw.tables⟩

theorem findDatabases_reads (id : Cell) :
    (request (.findDatabases id)).Reads env t n fun databases => databases = t.databasesOf id :=
  reads_request fun _ hw => ⟨hw, congrArg (Tables.databasesOf id) hw.tables⟩

theorem listStorages_reads (workspaceId : Cell) :
    (request (.listStorages workspaceId)).Reads env t n fun rows =>
      rows = t.visibleIn workspaceId := by
  refine reads_request fun w hw => ?_
  have hlist : env.answer w (.listStorages workspaceId) =
      (Environment.listing workspaceId t, w) := by
    rw [← hw.tables]
    rfl
  rw [hlist, Environment.listing]
  by_cases hcan : Tables.canList (t.visibleIn workspaceId) = true
  · rw [if_pos hcan]
    exact ⟨hw, rfl⟩
  · rw [if_neg hcan]
    exact hw

theorem protect_reads (owner : Cell) (v : Variant) :
    (request (.protect owner v)).Reads env t n fun stored =>
      v.Protects env.settings.encryptionKey owner env.nonce stored := by
  refine reads_request fun w hw => ?_
  have hprotect : env.answer w (.protect owner v) = env.protect owner v w := rfl
  rw [hprotect, Environment.protect]
  cases hfault : (v.protect env.settings.encryptionKey owner env.nonce w.nonces).fault with
  | none =>
    dsimp only
    exact ⟨⟨hw.tables, hw.ids⟩, w.nonces, hfault, rfl⟩
  | some fault =>
    dsimp only
    exact ⟨hw.tables, hw.ids⟩

theorem log_ends (line : LogLine) :
    (log line).Ends env t n (fun _ _ => False) (fun _ w => w.At t n) :=
  ends_request (fun _ _ _ hasks _ _ => nomatch hasks) fun _ hw => ⟨hw.tables, hw.ids⟩

theorem log_reads (line : LogLine) : (log line).Reads env t n fun _ => True :=
  Ends.mono (log_ends line) (fun _ _ h => h.elim) fun _ _ hw => ⟨hw, trivial⟩

/-- A connection test takes ids, but nobody changes the tables meanwhile. -/
theorem probe_ends (hq : env.IsQuiet) (owner : Cell) (v : Variant) :
    (request (.probe owner v)).Ends env t n (fun _ w => w.tables = t)
      (fun _ w => w.tables = t) := by
  refine ends_request (fun _ _ _ _ _ hw => hw.tables) fun w hw => ?_
  have hprobe : env.answer w (.probe owner v) = env.probe owner v w := rfl
  have htables : (env.probe owner v w).2.tables = t := (hq _ _).trans hw.tables
  rw [hprobe]
  rcases hp : env.probe owner v w with ⟨a | a, w'⟩ <;> rw [hp] at htables <;> exact htables

/-! ### Rights -/

theorem role_reads (workspaceId userId : Cell) :
    (role workspaceId userId).Reads env t n fun r => r = t.role workspaceId userId :=
  reads_request fun _ hw => ⟨hw, congrArg (Tables.role workspaceId userId) hw.tables⟩

/-- Whoever gets past this may view the workspace. -/
theorem requireView_reads (workspaceId : Cell) (actor : Actor) (reason : PermissionReason) :
    (requireView workspaceId actor reason).Reads env t n fun _ =>
      mayView actor (t.role workspaceId actor.id) = true := by
  refine Reads.andThen (P := fun access => access.allowed =
    mayView actor (t.role workspaceId actor.id)) ?_ ?_
  · refine Reads.andThen (role_reads workspaceId actor.id) ?_
    rintro r rfl
    exact reads_pure rfl
  · rintro access hallowed
    rw [← hallowed]
    exact reads_require access.allowed _

/-- Whoever gets past this may manage the storages of the workspace. -/
theorem requireManage_reads (workspaceId : Cell) (actor : Actor) (reason : PermissionReason) :
    (requireManage workspaceId actor reason).Reads env t n fun _ =>
      mayManage actor (t.role workspaceId actor.id) = .ok true := by
  refine Reads.andThen (P := fun allowed => mayManage actor (t.role workspaceId actor.id) =
    .ok allowed) ?_ ?_
  · -- of a global administrator no role is looked up
    rw [canManage]
    by_cases hadmin : actor.isGlobalAdmin = true
    · rw [if_pos hadmin]
      exact reads_pure (by rw [mayManage, if_pos hadmin])
    · rw [if_neg hadmin]
      refine Reads.andThen (role_reads workspaceId actor.id) ?_
      rintro r rfl
      exact reads_lift _
  · intro allowed hmay
    refine Reads.mono (reads_require allowed _) ?_
    rintro _ rfl
    exact hmay

/-- In a shared service, local disk is for global administrators. -/
theorem requireLocal_reads (cloudMode : Bool) (actor : Actor) (v : Variant) :
    (requireLocal cloudMode actor (some v)).Reads env t n fun _ =>
      cloudMode = true → v.backend = .localDisk → actor.isGlobalAdmin = true := by
  refine Reads.mono (reads_require _ _) fun _ hpass hcloud hlocal => ?_
  simpa [hcloud, hlocal] using hpass

/-- System storages are for global administrators, whatever the flag is. -/
theorem requireSystem_passes (actor : Actor) (isSystem : Cell) :
    (requireSystem actor isSystem).Reads env t n fun _ =>
      isSystem.isTruthy = true → actor.isGlobalAdmin = true := by
  refine Reads.mono (reads_require _ _) fun _ hpass hsystem => ?_
  simpa [hsystem] using hpass

/-- System storages are for global administrators. -/
theorem requireSystem_reads (actor : Actor) (isSystem : Bool) :
    (requireSystem actor (some (.bool isSystem))).Reads env t n fun _ =>
      isSystem = true → actor.isGlobalAdmin = true := by
  refine Reads.mono (requireSystem_passes actor _) fun _ hpass hsystem => hpass ?_
  rw [hsystem]
  rfl

/-! ### Finding storages -/

theorem loadOption_of_ofRow {row : Row} {s : Storage} (h : Storage.ofRow row = .ok s) :
    loadOption (some row) = .ok (some s) := by
  rw [loadOption, h]
  rfl

theorem loadOption_of_error {row : Row} {e : Failure} (h : Storage.ofRow row = .error e) :
    loadOption (some row) = .error e := by
  rw [loadOption, h]
  rfl

/-- What is found is read from the row that is found. -/
theorem find?_loads (id : Cell) :
    (find? id).Reads env t n fun found =>
      match found with
      | none => t.find? id = none
      | some s => ∃ row, t.find? id = some row ∧ Storage.ofRow row = .ok s := by
  refine Reads.andThen (findStorage_reads id) ?_
  rintro _ rfl
  refine Reads.mono (reads_lift _) fun found hload => ?_
  cases hf : t.find? id with
  | none =>
    rw [hf] at hload
    obtain rfl := Except.ok.inj hload
    rfl
  | some row =>
    rw [hf, loadOption] at hload
    cases hrow : Storage.ofRow row with
    | error e =>
      rw [hrow] at hload
      cases hload
    | ok s =>
      rw [hrow] at hload
      obtain rfl := Except.ok.inj hload
      exact ⟨row, rfl, hrow⟩

theorem get_loads (id : Cell) :
    (get id).Reads env t n fun s => ∃ row, t.find? id = some row ∧ Storage.ofRow row = .ok s := by
  refine Reads.andThen (find?_loads id) ?_
  intro found hfound
  cases found with
  | none =>
    refine Reads.andThen (P := fun _ => True) ?_ fun _ _ => reads_fail
    rw [told]
    cases id.plainText? with
    | none => exact reads_fail
    | some text => exact reads_pure trivial
  | some s => exact reads_pure hfound

/-- In a legible table, what is found is a record of the id. -/
theorem find?_legible (h : t.IsLegible) (id : Cell) :
    (find? id).Reads env t n fun found =>
      match found with
      | none => t.find? id = none
      | some s => ∃ row r, t.find? id = some row ∧ row.ReadAs r ∧ id = .ofText r.id ∧
          s = r.toStorage := by
  refine Reads.mono (find?_loads id) fun found hfound => ?_
  cases found with
  | none => exact hfound
  | some s =>
    obtain ⟨row, hrow, hread⟩ := hfound
    obtain ⟨r, hr, hid⟩ := h.of_find? hrow
    exact ⟨row, r, hrow, hr, hid, Except.ok.inj (hread.symm.trans hr)⟩

theorem get_legible (h : t.IsLegible) (id : Cell) :
    (get id).Reads env t n fun s =>
      ∃ row r, t.find? id = some row ∧ row.ReadAs r ∧ id = .ofText r.id ∧ s = r.toStorage := by
  refine Reads.mono (get_loads id) fun s ⟨row, hrow, hread⟩ => ?_
  obtain ⟨r, hr, hid⟩ := h.of_find? hrow
  exact ⟨row, r, hrow, hr, hid, Except.ok.inj (hread.symm.trans hr)⟩

/-- In a normal table, what is found is the record that its row holds. -/
theorem get_reads (h : t.IsNormal) (id : Cell) :
    (get id).Reads env t n fun s =>
      ∃ row r, t.find? id = some row ∧ row.Holds r ∧ id = .ofText r.id ∧ s = r.toStorage := by
  refine Reads.mono (get_legible h.isLegible id) ?_
  rintro s ⟨row, r, hrow, hr, hid, hs⟩
  exact ⟨row, r, hrow, h.holds_of_readAs hrow hr, hid, hs⟩

theorem list_reads (workspaceId : Cell) :
    (list workspaceId).Reads env t n fun storages =>
      loadAll (t.visibleIn workspaceId) = .ok storages := by
  refine Reads.andThen (listStorages_reads workspaceId) ?_
  rintro _ rfl
  exact reads_lift _

/-! ### Changing storages -/

/-- The row of a storage with an id is put into the table, and nothing fails after that. -/
theorem store_puts (s : Storage) {id : String} (hid : s.id = .ofText id) :
    (store s).Ends env t n (fun _ w => w.At t n)
      (fun saved w => ∃ row, s.toRow = .ok row ∧ w.At (t.save row) n ∧
        Storage.ofRow row = .ok saved) := by
  refine Reads.bind (reads_lift _) (fun _ _ hw => hw) ?_
  intro row hrow
  refine Ends.bind (S := fun saved w => w.At (t.save row) n ∧ saved = row) ?_ ?_
  · refine ends_request (fun _ _ _ _ _ hw => hw) fun w hw => ?_
    have hanswer : env.answer w (.saveStorage row) = (.ok row, w.save row) := by
      have hidentified : row.isIdentified = true := by
        obtain ⟨v, -, rfl⟩ := Storage.exists_variant_of_toRow hrow
        rw [hid]
        rfl
      show (Except.ok (env.identify row w).1,
        (env.identify row w).2.save (env.identify row w).1) = _
      rw [Environment.identify, if_pos hidentified]
    rw [hanswer]
    exact ⟨⟨congrArg (Tables.save row) hw.tables, hw.ids⟩, rfl⟩
  · rintro _ w ⟨hw, rfl⟩
    obtain ⟨variant, hread⟩ := Storage.ofRow_toRow hrow
    rw [hread]
    exact ends_pure fun w' hw' =>
      ⟨_, hrow, ⟨hw'.tables.trans hw.tables, hw'.ids.trans hw.ids⟩, hread⟩

/-- A record that is stored is put into the table, and is what the operation goes on with. -/
theorem store_ends (r : Record) :
    (store r.toStorage).Ends env t n (fun _ w => w.At t n)
      (fun s w => w.At (t.save r.toRow) n ∧ s = r.reread.toStorage) := by
  refine Ends.mono (store_puts r.toStorage rfl) (fun _ _ hw => hw) ?_
  rintro s w ⟨row, hrow, hw, hread⟩
  obtain rfl := Except.ok.inj hrow
  exact ⟨hw, Except.ok.inj (hread.symm.trans r.ofRow_toRow)⟩

theorem deleteStorage_ends (id : Cell) :
    (request (.deleteStorage id)).Ends env t n (fun _ w => w.At t n)
      (fun _ w => w.At (t.delete id) n) :=
  ends_request (fun _ _ _ _ _ hw => hw) fun _ hw =>
    ⟨congrArg (Tables.delete id) hw.tables, hw.ids⟩

/-! ### Telling what was done -/

/-- An entry is written at the end of the audit log, or a question to the audit log failed and the
tables are as they were. -/
def Noted (env : Environment) (t : Tables) (entry : AuditEntry) (after : Tables) : Prop :=
  (after = t ∧ ∃ k row m, env.fault k (.saveAudit row) = some m) ∨
    ∃ row, after = t.note row ∧ row.Tells entry

/-- Whether an entry of the audit log is written or not, no other table is changed. -/
theorem Noted.withAudit {entry : AuditEntry} {after : Tables} (h : Noted env t entry after) :
    ∃ audit, after = t.withAudit audit := by
  rcases h with ⟨rfl, -⟩ | ⟨row, rfl, -⟩
  · exact ⟨after.audit, rfl⟩
  · exact ⟨t.audit ++ [row], rfl⟩

theorem writeAudit_notes (entry : AuditEntry) :
    (writeAudit entry.toRow).Ends env t n (fun _ w => Noted env t entry w.tables)
      (fun _ w => Noted env t entry w.tables) := by
  have hask : (request (.saveAudit entry.toRow)).Ends env t n
      (fun _ w => Noted env t entry w.tables) fun _ w => Noted env t entry w.tables := by
    refine ends_request (fun k m w _ hfault hw => .inl ⟨hw.tables, k, _, m, hfault⟩) fun w hw => ?_
    refine .inr ⟨(env.identify entry.toRow w).1, ?_, ?_⟩
    · exact congrArg (Tables.note _) ((env.tables_identify entry.toRow w).trans hw.tables)
    · exact ⟨rfl, rfl, rfl⟩
  refine Ends.bind hask.attempt_same ?_
  rintro (e | row) w hw
  · -- the failure is told, and stays one
    refine Ends.bind (Ends.mono (log_ends _) (fun _ _ h => h.elim) fun _ _ hw => hw) ?_
    intro _ w' hw'
    exact ends_fail fun w'' hw'' => by rwa [hw''.tables, hw'.tables]
  · exact ends_pure fun w' hw' => by rwa [hw'.tables]

/-- What was done is noted in the audit log, or the operation goes on without it. -/
theorem recordAudit_notes (actor : Actor) (workspaceId : Cell) (message : String) :
    (recordAudit actor workspaceId message).Ends env t n (fun _ _ => False)
      (fun _ w => Noted env t ⟨message, actor.id, workspaceId⟩ w.tables) := by
  refine Ends.bind (writeAudit_notes _).attempt_same ?_
  rintro (e | row) w hw
  · exact Ends.mono (log_ends _) (fun _ _ h => h) fun _ w' hw' => by rwa [hw'.tables]
  · exact ends_pure fun w' hw' => by rwa [hw'.tables]

/-- What is told of a stored record is noted in the audit log and changes nothing else. -/
theorem tell_notes (line : LogLine) (actor : Actor) (workspaceId : Cell) (message : String) :
    (log line >>= fun _ => recordAudit actor workspaceId message).Ends env t n (fun _ _ => False)
      (fun _ w => Noted env t ⟨message, actor.id, workspaceId⟩ w.tables) := by
  refine Ends.bind (log_ends line) ?_
  rintro _ w hw
  rw [hw.tables]
  exact recordAudit_notes actor workspaceId message

end Service

end Depository
