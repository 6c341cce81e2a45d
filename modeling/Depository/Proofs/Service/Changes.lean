import Depository.Proofs.Service.Request
import Depository.Proofs.Service.Spares

/-!
# What requests change of the table of storages

A request saves one row, or it removes rows, or it leaves the table of storages alone; and what it
checked before says when the row that it saves is over a system storage or makes one, and when a row
that it removes is of one.  That is so of every request, whether it is done or fails, and nothing is
assumed of the rows but that their ids are texts and are not repeated, and nothing of what is
submitted: a row may be one that the service would not write.

* `Row.isSystem`, `Tables.HasSystem` — system storages in rows of any form;
* `Request.Changes` — what a request may do, one case for each kind of write, and what follows of
  it for system storages (`Request.Changes.of_system`, `Request.Changes.to_system`);
* `Request.program_changes` — **every request does nothing else.**
-/

namespace Depository

/-- The row is of a system storage. -/
def Row.isSystem (row : Row) : Bool := (row.get? "isSystem").isTruthy

theorem Storage.isShared_of_ofRow {row : Row} {s : Storage} (h : ofRow row = .ok s) :
    s.isShared = row.isSystem := by
  rw [isShared, (columns_of_ofRow h).2.2, Row.isSystem]

namespace Tables

/-- There is a system storage of this id, in the workspace. -/
def HasSystem (t : Tables) (id : String) (workspaceId : Cell) : Prop :=
  ∃ row, t.find? (.ofText id) = some row ∧ row.isSystem = true ∧
    row.get? "workspaceId" = workspaceId

/-- Whether there is a system storage of this id in a workspace can be looked up. -/
instance (t : Tables) (id workspaceId : String) :
    Decidable (t.HasSystem id (.ofText workspaceId)) :=
  decidable_of_iff ((t.find? (.ofText id)).any (fun row =>
      row.isSystem && row.has "workspaceId" (.ofText workspaceId)) = true) <| by
    simp only [HasSystem, Option.any_eq_true, Bool.and_eq_true, Row.has, Cell.same_ofText]

theorem find?_of_storages {t u : Tables} (h : u.storages = t.storages) (id : Cell) :
    u.find? id = t.find? id := by
  rw [find?, h, find?]

/-- What is found where rows were removed. -/
theorem IsKeyed.find?_removed {t u : Tables} (h : t.IsKeyed) {keep : Row → Bool}
    (hs : u.storages = t.storages.filter keep) (id : Cell) :
    u.find? id = (t.find? id).filter keep := by
  rw [← h.find?_filter keep id]
  exact find?_of_storages hs id

variable {t : Tables} {s : Storage} {row : Row} {id : String}

/-- What is found after the row of a storage was saved. -/
theorem find?_save_toRow (hrow : s.toRow = .ok row) (hid : s.id = .ofText id) (other : String) :
    other = id ∧ (∃ saved, (t.save row).find? (.ofText other) = some saved ∧
        saved.get? "workspaceId" = s.workspaceId ∧ saved.isSystem = s.isShared) ∨
      other ≠ id ∧ (t.save row).find? (.ofText other) = t.find? (.ofText other) := by
  have hsame : ∀ a b : String, (Cell.ofText a).same (.ofText b) = true ↔ a = b := by
    intro a b
    rw [Cell.same_ofText]
    simp [Cell.ofText]
  have hhas : row.hasId (.ofText id) = true :=
    Cell.same_ofText.2 ((Storage.get?_id_of_toRow hrow).trans hid)
  obtain ⟨v, -, rfl⟩ := Storage.exists_variant_of_toRow hrow
  rw [find?_save hhas]
  by_cases h : other = id
  · refine .inl ⟨h, ?_⟩
    rw [if_pos ((hsame id other).2 h.symm)]
    refine ⟨_, rfl, ?_⟩
    cases t.find? (.ofText id) with
    | none => exact ⟨rfl, rfl⟩
    | some old =>
      simp only [Option.elim, Row.isSystem, Row.get?_update]
      exact ⟨rfl, rfl⟩
  · refine .inr ⟨h, ?_⟩
    rw [if_neg fun h' => h ((hsame id other).1 h').symm]

end Tables

/-! ### What a request may change -/

namespace Request

/-- A global administrator asks for a storage to be saved. -/
def MakesSystem (request : Request) : Prop :=
  ∃ actor workspaceId s, request = save actor workspaceId s ∧ actor.isGlobalAdmin = true

/-- A global administrator asks for the storage of this id to be deleted, and no database backs up
to it. -/
def RemovesSystem (request : Request) (t : Tables) (id : String) : Prop :=
  ∃ actor, request = delete actor id ∧ actor.isGlobalAdmin = true ∧
    t.databasesOf (.ofText id) = []

/-- What a request may do to the table of storages, where `fresh` is the id that a new storage
gets. -/
inductive Changes (request : Request) (fresh : String) (t after : Tables) : Prop where
  | nothing : after.storages = t.storages → Changes request fresh t after
  /-- The row of a storage is saved.  Over the row of a system storage it is one of the same
  workspace, and over no row or another one only some make it a system storage. -/
  | saves {s : Storage} {row : Row} {id : String} (hrow : s.toRow = .ok row)
    (hid : s.id = .ofText id)
    (stays : ∀ old, t.find? (.ofText id) = some old → old.isSystem = true →
      s.isShared = true ∧ s.workspaceId = old.get? "workspaceId")
    (made : s.isShared = true →
      (∃ old, t.find? (.ofText id) = some old ∧ old.isSystem = true) ∨ request.MakesSystem)
    (new : t.find? (.ofText id) = none → request.IsCreation ∧ id = fresh) :
    after.storages = (t.save row).storages → Changes request fresh t after
  /-- Rows are removed. -/
  | removes (keep : Row → Bool)
    (gone : ∀ row ∈ t.storages, row.isSystem = true → keep row = false →
      ∃ id, row.get? "id" = .ofText id ∧ request.RemovesSystem t id) :
    after.storages = t.storages.filter keep → Changes request fresh t after

namespace Changes

variable {request : Request} {fresh : String} {t after : Tables} {row : Row}

theorem of_storages {u : Tables} (h : request.Changes fresh t after)
    (hs : u.storages = after.storages) : request.Changes fresh t u := by
  cases h with
  | nothing h => exact .nothing (hs.trans h)
  | saves hrow hid stays made new h => exact .saves hrow hid stays made new (hs.trans h)
  | removes keep gone h => exact .removes keep gone (hs.trans h)

/-- Whatever is changed, the rows are keyed by their ids. -/
theorem isKeyed (h : request.Changes fresh t after) (hk : t.IsKeyed) : after.IsKeyed := by
  cases h with
  | nothing h => exact hk.of_storages h
  | saves hrow hid stays made new h =>
    exact (hk.save ((Storage.get?_id_of_toRow hrow).trans hid)).of_storages h
  | removes keep gone h => exact (hk.filter keep).of_storages h

/-- Only a new storage gets an id that no storage had. -/
theorem isCreation {id : String} (h : request.Changes fresh t after) (hk : t.IsKeyed)
    (hold : t.find? (.ofText id) = none) (hnew : after.find? (.ofText id) = some row) :
    request.IsCreation ∧ id = fresh := by
  cases h with
  | nothing h =>
    rw [Tables.find?_of_storages h, hold] at hnew
    cases hnew
  | saves hrow hid stays made new h =>
    rw [Tables.find?_of_storages h] at hnew
    rcases Tables.find?_save_toRow (t := t) hrow hid id with ⟨rfl, -⟩ | ⟨-, hsame⟩
    · exact new hold
    · rw [hsame, hold] at hnew
      cases hnew
  | removes keep gone h =>
    rw [hk.find?_removed h, hold] at hnew
    cases hnew

/-- A system storage stays one in its workspace, or it is removed by one who may do that. -/
theorem of_system {id : String} {workspaceId : Cell} (h : request.Changes fresh t after)
    (hk : t.IsKeyed) (hs : t.HasSystem id workspaceId) :
    after.HasSystem id workspaceId ∨
      after.find? (.ofText id) = none ∧ request.RemovesSystem t id := by
  obtain ⟨row, hfound, hsystem, hworkspace⟩ := hs
  cases h with
  | nothing h =>
    exact .inl ⟨row, (Tables.find?_of_storages h _).trans hfound, hsystem, hworkspace⟩
  | saves hrow hid stays made new h =>
    refine .inl ?_
    rw [Tables.HasSystem, Tables.find?_of_storages h]
    rcases Tables.find?_save_toRow (t := t) hrow hid id with
      ⟨rfl, saved, hsaved, hsame, hshared⟩ | ⟨-, hsame⟩
    · obtain ⟨hstill, hanchored⟩ := stays row hfound hsystem
      exact ⟨saved, hsaved, hshared.trans hstill, (hsame.trans hanchored).trans hworkspace⟩
    · exact ⟨row, hsame.trans hfound, hsystem, hworkspace⟩
  | removes keep gone h =>
    have hafter : after.find? (.ofText id) = (some row).filter keep := by
      rw [hk.find?_removed h, hfound]
    cases hkeep : keep row with
    | true =>
      rw [Option.filter_some_pos hkeep] at hafter
      exact .inl ⟨row, hafter, hsystem, hworkspace⟩
    | false =>
      rw [Option.filter_some_neg (by simp [hkeep])] at hafter
      obtain ⟨id', hid', hremoves⟩ := gone row (Tables.mem_of_find? hfound) hsystem hkeep
      have heq : id' = id := by
        have hids := hid'.symm.trans (Tables.get?_id_of_find? hfound)
        simpa [Cell.ofText] using hids
      exact .inr ⟨hafter, heq ▸ hremoves⟩

/-- What is a system storage afterwards was one before, unless it is saved as one by one who may do
that. -/
theorem to_system {id : String} {workspaceId : Cell} (h : request.Changes fresh t after)
    (hk : t.IsKeyed) (hs : after.HasSystem id workspaceId) :
    (∃ workspaceId, t.HasSystem id workspaceId) ∨ request.MakesSystem := by
  obtain ⟨row, hfound, hsystem, hworkspace⟩ := hs
  cases h with
  | nothing h =>
    rw [Tables.find?_of_storages h] at hfound
    exact .inl ⟨workspaceId, row, hfound, hsystem, hworkspace⟩
  | saves hrow hid stays made new h =>
    rw [Tables.find?_of_storages h] at hfound
    rcases Tables.find?_save_toRow (t := t) hrow hid id with
      ⟨rfl, saved, hsaved, -, hshared⟩ | ⟨-, hsame⟩
    · obtain rfl := Option.some.inj (hsaved.symm.trans hfound)
      rcases made (hshared.symm.trans hsystem) with ⟨old, hold, hwas⟩ | hmakes
      · exact .inl ⟨_, old, hold, hwas, rfl⟩
      · exact .inr hmakes
    · exact .inl ⟨workspaceId, row, hsame.symm.trans hfound, hsystem, hworkspace⟩
  | removes keep gone h =>
    rw [hk.find?_removed h, Option.filter_eq_some_iff] at hfound
    exact .inl ⟨workspaceId, row, hfound.1, hsystem, hworkspace⟩

end Changes

end Request

/-! ### What each operation changes -/

namespace Service

open Operation

variable {env : Environment} {t u : Tables} {n : Nat} {request : Request} {fresh : String}

/-- The operation, whatever its end, changes of `t` what the request may change. -/
def Within (env : Environment) (t u : Tables) (n : Nat) (request : Request) (fresh : String)
    {α : Type} (o : Operation α) : Prop :=
  o.Ends env u n (fun _ w => request.Changes fresh t w.tables)
    (fun _ w => request.Changes fresh t w.tables)

/-- What spares the storages may come after any change. -/
theorem within_of_spares {α : Type} {o : Operation α} (h : o.Spares) (hq : env.IsQuiet)
    (hu : request.Changes fresh t u) : Within env t u n request fresh o :=
  Ends.mono (h.ends hq) (fun _ _ hw => hu.of_storages hw) fun _ _ hw => hu.of_storages hw

theorem of_unchanged {w : World} (hw : w.At t n) : request.Changes fresh t w.tables :=
  .nothing (congrArg Tables.storages hw.tables)

/-- A storage is stored over the row that another one was read from, and nothing after that touches
the table.  What was a system storage stays one in its workspace, and what was none is made one only
by those who may do that. -/
theorem store_within (hq : env.IsQuiet) {old s : Storage} {id : String} {row : Row}
    (hfound : t.find? (.ofText id) = some row) (hread : Storage.ofRow row = .ok old)
    (same : s.id = old.id)
    (stays : old.isShared = true → s.isShared = true ∧ s.workspaceId = old.workspaceId)
    (made : s.isShared = true → old.isShared = true ∨ request.MakesSystem)
    {α : Type} {rest : Storage → Operation α} (hrest : ∀ saved, (rest saved).Spares) :
    Within env t t n request fresh (store s >>= rest) := by
  obtain ⟨hid, hworkspace, -⟩ := Storage.columns_of_ofRow hread
  have hown : s.id = .ofText id := same.trans (hid.trans (Tables.get?_id_of_find? hfound))
  refine Ends.bind (Ends.mono (store_puts s hown) (fun _ _ => of_unchanged) fun _ _ hw => hw) ?_
  rintro saved w ⟨row', hrow, hw, -⟩
  refine within_of_spares (hrest saved) hq
    (.saves hrow hown ?_ ?_ ?_ (congrArg Tables.storages hw.tables))
  · intro row' hfound' hwas
    obtain rfl := Option.some.inj (hfound.symm.trans hfound')
    rw [← hworkspace]
    exact stays ((Storage.isShared_of_ofRow hread).trans hwas)
  · intro hnow
    refine (made hnow).imp_left fun hwas => ⟨row, hfound, ?_⟩
    rw [← Storage.isShared_of_ofRow hread, hwas]
  · rw [hfound]
    exact fun h => nomatch h

theorem create_within (actor : Actor) (workspaceId : String) (s : Submission)
    (hid : s.id = none ∨ s.id = some "") (hfresh : t.find? (.ofText (env.freshId n)) = none)
    (hsystem : s.isSystem = true → actor.isGlobalAdmin = true) :
    Within env t t n (.save actor workspaceId s) (env.freshId n)
      (create actor (.ofText workspaceId) s.toInput) := by
  refine Ends.mono (create_notes actor workspaceId s hid)
    (fun _ w hw => .nothing (congrArg Tables.storages hw)) ?_
  rintro saved w ⟨r, hcreated, -, hnoted⟩
  obtain ⟨audit, htables⟩ := hnoted.withAudit
  have hr := hcreated.record
  have hid' : r.toStorage.id = .ofText (env.freshId n) := by
    rw [hr]
    rfl
  refine .saves (Record.toRow_toStorage r) hid' ?_ ?_ ?_
    (by rw [htables, Tables.storages_withAudit])
  · rw [hfresh]
    exact fun _ h => nomatch h
  · intro hshared
    rw [Record.isShared_toStorage, hr] at hshared
    exact .inr ⟨actor, workspaceId, s, rfl, hsystem hshared⟩
  · exact fun _ => ⟨hid, rfl⟩

theorem update_within (hq : env.IsQuiet) (actor : Actor) (workspaceId id : String)
    (s : Submission) (hsystem : s.isSystem = true → actor.isGlobalAdmin = true) :
    Within env t t n (.save actor workspaceId s) fresh
      (update actor (.ofText workspaceId) (.ofText id) s.toInput) := by
  refine Reads.bind (get_loads _) (fun _ _ => of_unchanged) ?_
  rintro existing ⟨row, hfound, hread⟩
  refine Reads.bind (reads_require _ _) (fun _ _ => of_unchanged) fun _ _ => ?_
  refine Reads.bind (reads_require _ _) (fun _ _ => of_unchanged) fun _ hstays => ?_
  refine Reads.bind (reads_lift _) (fun _ _ => of_unchanged) fun current _ => ?_
  refine Reads.bind (reads_lift _) (fun _ _ => of_unchanged) fun submitted _ => ?_
  refine Reads.bind (reads_lift _) (fun _ _ => of_unchanged) fun _ _ => ?_
  refine Reads.bind (protect_reads _ _) (fun _ _ => of_unchanged) fun variant _ => ?_
  refine Reads.bind (reads_lift _) (fun _ _ => of_unchanged) fun name _ => ?_
  refine store_within hq hfound hread ?same ?stays ?made fun saved => ?told
  case same => rfl
  case stays =>
    -- what is shared cannot be made private
    intro hwas
    rw [hwas] at hstays
    exact ⟨by simpa [Storage.isShared] using hstays, rfl⟩
  case made =>
    intro hnow
    refine .inr ⟨actor, workspaceId, s, rfl, hsystem ?_⟩
    simpa [Storage.isShared, Submission.toInput, Cell.isTruthy, Json.isTruthy] using hnow
  case told =>
    refine Spares.bind (spares_lift _) fun known => ?_
    refine Spares.bind (spares_told _) fun _ => Spares.bind (spares_told _) fun _ => ?_
    refine Spares.bind (spares_log _) fun _ => Spares.bind (spares_told _) fun _ => ?_
    exact Spares.bind (spares_recordAudit _ _ _) fun _ => spares_pure _

theorem save_within (hq : env.IsQuiet) (cloudMode : Bool) (actor : Actor) (workspaceId : String)
    (s : Submission) (hfresh : (Request.save actor workspaceId s).IsCreation →
      t.find? (.ofText (env.freshId n)) = none) :
    Within env t t n (.save actor workspaceId s) (env.freshId n)
      (save cloudMode actor (.ofText workspaceId) s.toInput) := by
  refine Reads.bind (requireManage_reads _ actor _) (fun _ _ => of_unchanged) fun _ _ => ?_
  refine Reads.bind (requireLocal_reads cloudMode actor s.variant) (fun _ _ => of_unchanged)
    fun _ _ => ?_
  refine Reads.bind (requireSystem_reads actor s.isSystem) (fun _ _ => of_unchanged)
    fun _ hsystem => ?_
  refine Reads.bind (reads_lift _) (fun _ _ => of_unchanged) fun name _ => ?_
  refine Reads.bind (reads_require _ _) (fun _ _ => of_unchanged) fun _ _ => ?_
  refine Ends.bind (S := fun _ w =>
    (Request.save actor workspaceId s).Changes (env.freshId n) t w.tables) ?_ ?_
  · rw [createOrUpdate]
    cases hid : s.id with
    | none =>
      rw [if_neg (by simp [Submission.toInput, hid, Cell.isTruthy])]
      exact create_within actor workspaceId s (.inl hid) (hfresh (.inl hid)) hsystem
    | some id =>
      rw [Submission.id_toInput hid]
      by_cases hempty : id = ""
      · rw [if_neg fun hgiven => Cell.isTruthy_ofText.1 hgiven hempty]
        have hnew : s.id = none ∨ s.id = some "" := .inr (by rw [hid, hempty])
        exact create_within actor workspaceId s hnew (hfresh hnew) hsystem
      · rw [if_pos (Cell.isTruthy_ofText.2 hempty)]
        exact update_within hq actor workspaceId id s hsystem
  · exact fun saved w hw => within_of_spares (spares_lift _) hq hw

theorem delete_within (hk : t.IsKeyed) (hq : env.IsQuiet) (actor : Actor) (id : String) :
    Within env t t n (.delete actor id) fresh (delete actor (.ofText id)) := by
  refine Reads.bind (get_loads _) (fun _ _ => of_unchanged) ?_
  rintro s ⟨row, hfound, hread⟩
  refine Reads.bind (requireManage_reads _ actor _) (fun _ _ => of_unchanged) fun _ _ => ?_
  refine Reads.bind (requireSystem_passes actor _) (fun _ _ => of_unchanged) fun _ hsystem => ?_
  refine Reads.bind (findDatabases_reads _) (fun _ _ => of_unchanged) ?_
  rintro _ rfl
  refine Reads.bind (reads_require _ _) (fun _ _ => of_unchanged) fun _ hdetached => ?_
  refine Ends.bind (Ends.mono (deleteStorage_ends _) (fun _ _ => of_unchanged) fun _ _ hw => hw) ?_
  intro _ w hw
  refine within_of_spares ?_ hq (.removes (fun r => !r.hasId (.ofText id)) ?_
    (congrArg Tables.storages hw.tables))
  · refine Spares.bind (spares_told _) fun _ => Spares.bind (spares_told _) fun _ => ?_
    refine Spares.bind (spares_log _) fun _ => Spares.bind (spares_told _) fun _ => ?_
    exact spares_recordAudit _ _ _
  · intro other hother hwas hgone
    have hid : other.get? "id" = .ofText id := (Row.hasId_iff.1 (by simpa using hgone)).1
    -- the one row that is gone is the one that was looked at
    obtain rfl := hk.eq_of_id (Tables.mem_of_find? hfound) hother
      (hid.trans (Tables.get?_id_of_find? hfound).symm)
    refine ⟨id, hid, actor, rfl, hsystem ?_, List.isEmpty_iff.1 hdetached⟩
    exact (Storage.isShared_of_ofRow hread).trans hwas

theorem transfer_within (hq : env.IsQuiet) (actor : Actor) (id target : String)
    (single : Option String) :
    Within env t t n (.transfer actor id target single) fresh
      (transfer actor (.ofText id) (.ofText target) (single.map .string)) := by
  refine Reads.bind (get_loads _) (fun _ _ => of_unchanged) ?_
  rintro s ⟨row, hfound, hread⟩
  refine Reads.bind (reads_require _ _) (fun _ _ => of_unchanged) fun _ hnot => ?_
  refine Reads.bind (requireManage_reads _ actor _) (fun _ _ => of_unchanged) fun _ _ => ?_
  refine Reads.bind (requireManage_reads _ actor _) (fun _ _ => of_unchanged) fun _ _ => ?_
  refine Reads.bind (findDatabases_reads _) (fun _ _ => of_unchanged) fun databases _ => ?_
  refine Reads.bind (requireDetached_reads databases _) (fun _ _ => of_unchanged) fun _ _ => ?_
  have hprivate : s.isShared = false := by simpa using hnot
  refine store_within hq hfound hread ?same ?stays ?made fun saved => ?told
  case same => rfl
  case stays =>
    intro hwas
    rw [hprivate] at hwas
    cases hwas
  case made => exact .inl
  case told =>
    refine Spares.bind (spares_told _) fun _ => Spares.bind (spares_told _) fun _ => ?_
    refine Spares.bind (spares_told _) fun _ => Spares.bind (spares_log _) fun _ => ?_
    refine Spares.bind (spares_told _) fun _ => Spares.bind (spares_told _) fun _ => ?_
    exact Spares.bind (spares_told _) fun _ => spares_recordAudit _ _ _

theorem recordOutcome_within (hq : env.IsQuiet) (id : String) (error : Option String) :
    Within env t t n request fresh (recordOutcome (.ofText id) error) := by
  refine Reads.bind (find?_loads _) (fun _ _ => of_unchanged) ?_
  rintro (_ | s) hs
  · exact within_of_spares (spares_pure ()) hq (.nothing rfl)
  obtain ⟨row, hfound, hread⟩ := hs
  have hstore : ∀ error, Within env t t n request fresh
      (store { s with lastSaveError := Storage.testOutcome error } >>= fun _ => pure ()) := by
    intro error
    refine store_within hq hfound hread ?same ?stays ?made fun _ => spares_pure ()
    case same => rfl
    case stays => exact fun hwas => ⟨hwas, rfl⟩
    case made => exact .inl
  dsimp only
  split
  · exact hstore none
  · exact hstore (some "")
  · rename_i text _
    rw [told_ofText, Operation.pure_bind]
    exact Reads.bind (log_reads _) (fun _ _ => of_unchanged) fun _ _ => hstore (some text)

theorem testStored_within (hq : env.IsQuiet) (actor : Actor) (id : String) :
    Within env t t n request fresh (testStored actor (.ofText id)) := by
  refine Reads.bind (get_loads _) (fun _ _ => of_unchanged) ?_
  rintro s ⟨row, hfound, hread⟩
  refine Reads.bind (requireView_reads _ actor _) (fun _ _ => of_unchanged) fun _ _ => ?_
  have hprobe : (probe s.id s.variant).Ends env t n (fun _ w => w.tables = t)
      fun _ w => w.tables = t := by
    cases s.variant with
    | none => exact ends_fail fun _ hw => hw.tables
    | some v => exact probe_ends hq _ v
  refine Ends.bind hprobe.attempt_same ?_
  rintro (e | a) w hw <;> rw [hw]
  · refine Ends.bind (S := fun _ w => request.Changes fresh t w.tables) ?_ ?_
    · exact Ends.attempt_same (recordOutcome_within hq id _)
    rintro (e' | a) w hw
    · refine within_of_spares ?_ hq hw
      exact Spares.bind (spares_told _) fun _ => Spares.bind (spares_log _) fun _ => spares_fail e
    · exact within_of_spares (spares_fail e) hq hw
  · exact recordOutcome_within hq id none

/-- No row of a system storage is removed with a workspace: of those that are listed none may be
shared, and each of them takes out just its own row. -/
theorem clearWorkspace_within (hk : t.IsKeyed) (hq : env.IsQuiet) (workspaceId : String) :
    Within env t t n request fresh (clearWorkspace (.ofText workspaceId)) := by
  refine Reads.bind (list_reads _) (fun _ _ => of_unchanged) fun storages hload => ?_
  refine Reads.bind (reads_require _ _) (fun _ _ => of_unchanged) fun _ hnone => ?_
  have hwithout : ∀ gone, gone ⊆ storages.filter (fun s => s.workspaceId.same
      (.ofText workspaceId)) → ∀ u : Tables, u = without gone t →
      request.Changes fresh t u := by
    rintro gone hgone _ rfl
    refine .removes (fun row => !gone.any fun s => row.hasId s.id) ?_ rfl
    intro row hrow hwas hkeep
    obtain ⟨s, hs, hid⟩ : ∃ s ∈ gone, row.hasId s.id = true := by simpa using hkeep
    obtain ⟨row', hrow', hread⟩ := (mem_loadAll hload s).1 (List.mem_filter.1 (hgone hs)).1
    have hsame : row.get? "id" = row'.get? "id" :=
      (Row.hasId_iff.1 hid).1.trans (Storage.columns_of_ofRow hread).1
    obtain rfl := hk.eq_of_id (Tables.mem_visibleIn.1 hrow').1 hrow hsame
    rw [Bool.not_eq_true', List.any_eq_false] at hnone
    exact absurd ((Storage.isShared_of_ofRow hread).trans hwas) (hnone s (hgone hs))
  refine Ends.bind (Ends.mono (deleteAll_ends _) ?_ fun _ _ hw => hw) ?_
  · rintro _ w ⟨-, gone, hgone, htables⟩
    exact hwithout gone hgone _ htables
  · intro _ w hw
    refine within_of_spares ?_ hq (hwithout _ (List.Subset.refl _) _ hw.tables)
    exact Spares.bind (spares_told _) fun _ => spares_log _

end Service

namespace Request

open Operation Service

variable {env : Environment} {t : Tables} {n : Nat}

/-- **What every request may do to the table of storages**, whether it is done or fails. -/
theorem program_changes (hk : t.IsKeyed) (hq : env.IsQuiet) (cloudMode : Bool) (request : Request)
    (hfresh : request.IsCreation → t.find? (.ofText (env.freshId n)) = none) :
    Within env t t n request (env.freshId n) (request.program cloudMode) := by
  cases request with
  | save actor workspaceId s =>
    exact Ends.bind (save_within hq cloudMode actor workspaceId s hfresh) fun _ w hw =>
      within_of_spares (spares_pure ()) hq hw
  | delete actor id => exact delete_within hk hq actor id
  | transfer actor id target single => exact transfer_within hq actor id target single
  | test actor id => exact testStored_within hq actor id
  | testSubmitted actor s =>
    exact within_of_spares (spares_testSubmitted cloudMode actor _) hq (.nothing rfl)
  | read actor id =>
    exact within_of_spares (Spares.bind (spares_read actor _) fun _ => spares_pure ()) hq
      (.nothing rfl)
  | readAll actor workspaceId =>
    exact within_of_spares (Spares.bind (spares_readAll actor _) fun _ => spares_pure ()) hq
      (.nothing rfl)
  | clear workspaceId => exact clearWorkspace_within hk hq workspaceId

end Request

end Depository
