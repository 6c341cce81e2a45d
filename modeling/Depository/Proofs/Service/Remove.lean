import Depository.Proofs.Service.Parts
import Depository.Service.Remove

/-!
# What removing and transferring storages does

A deletion takes one row out of the table of storages, and a transfer changes the workspace of one
record and nothing else of it.  Both leave the tables as they were if they fail.  The storages of a
workspace that is to be removed are deleted one after another, so they are all gone in the end, or
a part of them if one of the deletions fails.

* `Service.MayDelete`, `Service.MayTransfer` — what is checked of the record before;
* `Service.vacate`, `Service.PartlyVacated` — the tables without rows of a workspace;
* `Service.delete_ends`, `Service.transfer_ends`, `Service.clearWorkspace_ends` — what is done.
-/

namespace Depository

namespace Service

open Operation

variable {env : Environment} {t : Tables} {n : Nat}

/-! ### Deleting -/

/-- The actor may delete the stored record. -/
structure MayDelete (actor : Actor) (t : Tables) (r : Record) : Prop where
  found : ∃ row, t.find? (.ofText r.id) = some row ∧ row.Holds r
  manage : mayManage actor (t.role (.ofText r.workspaceId) actor.id) = .ok true
  system : r.isSystem = true → actor.isGlobalAdmin = true
  detached : (t.databasesOf (.ofText r.id)).isEmpty = true

/-- **A deletion takes the row of its id out of the table and notes it**, or leaves the tables as
they were. -/
theorem delete_notes (h : t.IsLegible) (actor : Actor) (id : String) :
    (delete actor (.ofText id)).Ends env t n (fun _ w => w.tables = t)
      (fun _ w => ∃ row r, t.find? (.ofText id) = some row ∧ row.ReadAs r ∧ r.id = id ∧
        (t.IsNormal → MayDelete actor t r) ∧
        Noted env (t.delete (.ofText id))
          ⟨"Storage deleted: " ++ r.name, actor.id, .ofText r.workspaceId⟩ w.tables) := by
  refine Reads.bind (get_legible h _) (fun _ _ hw => hw.tables) ?_
  rintro _ ⟨row, r, hfound, hrow, hid, rfl⟩
  refine Reads.bind (requireManage_reads _ actor _) (fun _ _ hw => hw.tables) ?_
  intro _ hmanage
  refine Reads.bind (requireSystem_reads actor r.isSystem) (fun _ _ hw => hw.tables) ?_
  intro _ hsystem
  refine Reads.bind (findDatabases_reads _) (fun _ _ hw => hw.tables) ?_
  rintro _ rfl
  refine Reads.bind (reads_require _ _) (fun _ _ hw => hw.tables) ?_
  intro _ hdetached
  -- nothing fails once the row is gone
  refine Ends.bind (Ends.mono (deleteStorage_ends _) (fun _ _ hw => hw.tables) fun _ _ hw => hw) ?_
  intro _ w hw
  rw [hw.tables]
  refine Ends.mono (tell_notes _ actor _ _) (fun _ _ h => h.elim) fun _ w' hnoted => ?_
  have hideq : r.id = id := by simpa [Cell.ofText] using hid.symm
  subst hideq
  refine ⟨row, r, hfound, hrow, rfl, fun hnormal => ?_, hnoted⟩
  exact ⟨⟨row, hfound, hnormal.holds_of_readAs hfound hrow⟩, hmanage, hsystem, hdetached⟩

/-- **A deletion takes the row of its id out of the table**, or leaves the tables as they were. -/
theorem delete_ends (h : t.IsNormal) (actor : Actor) (id : String) :
    (delete actor (.ofText id)).Ends env t n (fun _ w => w.tables = t)
      (fun _ w => ∃ r audit, r.id = id ∧ MayDelete actor t r ∧
        w.tables = (t.delete (.ofText id)).withAudit audit) := by
  refine Ends.mono (delete_notes h.isLegible actor id) (fun _ _ hw => hw) ?_
  rintro _ w ⟨-, r, -, -, hid, hmay, hnoted⟩
  obtain ⟨audit, htables⟩ := hnoted.withAudit
  exact ⟨r, audit, hid, hmay h, htables⟩

/-! ### Transferring -/

/-- The actor may move the stored record to the workspace `target`, with the one database that is
given if there is one. -/
structure MayTransfer (actor : Actor) (t : Tables) (target : String) (single : Cell)
    (r : Record) : Prop where
  found : ∃ row, t.find? (.ofText r.id) = some row ∧ row.Holds r
  notSystem : r.isSystem = false
  manageSource : mayManage actor (t.role (.ofText r.workspaceId) actor.id) = .ok true
  manageTarget : mayManage actor (t.role (.ofText target) actor.id) = .ok true
  detached : if single.isTruthy then ∀ d ∈ t.databasesOf (.ofText r.id), d.same single = true
    else t.databasesOf (.ofText r.id) = []

theorem requireDetached_reads (databases : List Cell) (single : Cell) :
    (requireDetached databases single).Reads env t n fun _ =>
      if single.isTruthy then ∀ d ∈ databases, d.same single = true else databases = [] := by
  rw [requireDetached]
  by_cases hs : single.isTruthy = true
  · simp only [hs, if_true]
    exact Reads.mono (reads_require _ _) fun _ hall => List.all_eq_true.1 hall
  · simp only [hs, Bool.false_eq_true, if_false]
    exact Reads.mono (reads_require _ _) fun _ hempty => List.isEmpty_iff.1 hempty

/-- **A transfer changes the workspace of one record and notes it**, or leaves the tables as they
were. -/
theorem transfer_notes (h : t.IsLegible) (actor : Actor) (id target : String) (single : Cell) :
    (transfer actor (.ofText id) (.ofText target) single).Ends env t n (fun _ w => w.tables = t)
      (fun _ w => ∃ row r, t.find? (.ofText id) = some row ∧ row.ReadAs r ∧ r.id = id ∧
        (t.IsNormal → MayTransfer actor t target single r) ∧
        Noted env (t.save { r with workspaceId := target }.toRow)
          ⟨"Storage transferred: " ++ r.name ++ " from workspace " ++ r.workspaceId ++
            " to workspace " ++ target, actor.id, .ofText target⟩ w.tables) := by
  refine Reads.bind (get_legible h _) (fun _ _ hw => hw.tables) ?_
  rintro _ ⟨row, r, hfound, hrow, hid, rfl⟩
  refine Reads.bind (reads_require _ _) (fun _ _ hw => hw.tables) ?_
  intro _ hshared
  refine Reads.bind (requireManage_reads _ actor _) (fun _ _ hw => hw.tables) ?_
  intro _ hsource
  refine Reads.bind (requireManage_reads _ actor _) (fun _ _ hw => hw.tables) ?_
  intro _ htarget
  refine Reads.bind (findDatabases_reads _) (fun _ _ hw => hw.tables) ?_
  rintro _ rfl
  refine Reads.bind (requireDetached_reads _ single) (fun _ _ hw => hw.tables) ?_
  intro _ hdetached
  -- nothing fails once the row is changed
  let moved : Record := { r with workspaceId := target }
  refine Ends.bind (Ends.mono (store_ends moved) (fun _ _ hw => hw.tables) fun _ _ hw => hw) ?_
  rintro _ w ⟨hw, -⟩
  rw [hw.tables]
  refine Ends.mono (tell_notes _ actor _ _) (fun _ _ h => h.elim) fun _ w' hnoted => ?_
  have hideq : r.id = id := by simpa [Cell.ofText] using hid.symm
  subst hideq
  have hnot : r.isSystem = false := by simpa using hshared
  refine ⟨row, r, hfound, hrow, rfl, fun hnormal => ?_, hnoted⟩
  exact ⟨⟨row, hfound, hnormal.holds_of_readAs hfound hrow⟩, hnot, hsource, htarget, hdetached⟩

/-- **A transfer changes the workspace of one record**, or leaves the tables as they were. -/
theorem transfer_ends (h : t.IsNormal) (actor : Actor) (id target : String) (single : Cell) :
    (transfer actor (.ofText id) (.ofText target) single).Ends env t n (fun _ w => w.tables = t)
      (fun _ w => ∃ r audit, r.id = id ∧ MayTransfer actor t target single r ∧
        w.tables = (t.save { r with workspaceId := target }.toRow).withAudit audit) := by
  refine Ends.mono (transfer_notes h.isLegible actor id target single) (fun _ _ hw => hw) ?_
  rintro _ w ⟨-, r, -, -, hid, hmay, hnoted⟩
  obtain ⟨audit, htables⟩ := hnoted.withAudit
  exact ⟨r, audit, hid, hmay h, htables⟩

/-! ### Removing the storages of a workspace -/

/-- The tables without the rows of these storages. -/
def without (storages : List Storage) (t : Tables) : Tables :=
  { t with storages := t.storages.filter fun row => !storages.any fun s => row.hasId s.id }

theorem without_cons (s : Storage) (rest : List Storage) (t : Tables) :
    without (s :: rest) t = without rest (t.delete s.id) := by
  simp only [without, Tables.delete, List.filter_filter, List.any_cons, Bool.not_or,
    Bool.and_comm]

/-- The storages are all gone, or a deletion failed and those before it are gone. -/
theorem deleteAll_ends (storages : List Storage) :
    (deleteAll storages).Ends env t n
      (fun _ w => (∃ k id m, env.fault k (.deleteStorage id) = some m) ∧
        ∃ gone, gone ⊆ storages ∧ w.tables = without gone t)
      (fun _ w => w.At (without storages t) n) := by
  have hnil : ∀ t : Tables, without [] t = t := fun t => by simp [without]
  induction storages generalizing t with
  | nil =>
    rw [hnil]
    exact ends_pure fun _ hw => hw
  | cons s rest ih =>
    refine Ends.bind (S := fun _ w => w.At (t.delete s.id) n) ?_ ?_
    · refine ends_request (fun k m _ _ hfault hw => ?_) fun _ hw =>
        ⟨congrArg (Tables.delete s.id) hw.tables, hw.ids⟩
      exact ⟨⟨k, s.id, m, hfault⟩, [], List.nil_subset _, by rw [hnil, hw.tables]⟩
    · intro _ w hw
      rw [hw.tables, hw.ids, without_cons]
      refine Ends.mono ih ?_ fun _ _ hw' => hw'
      rintro _ w' ⟨hfault, gone, hgone, htables⟩
      exact ⟨hfault, s :: gone, List.cons_subset_cons s hgone, by rw [without_cons, htables]⟩

/-- The storages that are listed are those that the rows are read as. -/
theorem mem_loadAll {rows : List Row} {storages : List Storage}
    (hload : loadAll rows = .ok storages) (s : Storage) :
    s ∈ storages ↔ ∃ row ∈ rows, Storage.ofRow row = .ok s := by
  induction rows generalizing storages with
  | nil =>
    obtain rfl := Except.ok.inj hload
    simp
  | cons row rest ih =>
    rw [loadAll] at hload
    cases hrow : Storage.ofRow row with
    | error e =>
      rw [hrow] at hload
      cases hload
    | ok first =>
      cases hmore : loadAll rest with
      | error e =>
        rw [hrow, hmore] at hload
        cases hload
      | ok more =>
        rw [hrow, hmore] at hload
        obtain rfl := Except.ok.inj hload
        rw [List.mem_cons, ih hmore, List.exists_mem_cons_iff, hrow, Except.ok.injEq, eq_comm]

/-- The storages that are listed are the records of their rows. -/
theorem mem_of_loadAll {rows : List Row} {storages : List Storage}
    (h : ∀ row ∈ rows, ∃ r : Record, row.Holds r) (hload : loadAll rows = .ok storages)
    (s : Storage) :
    s ∈ storages ↔ ∃ row ∈ rows, ∃ r : Record, row.Holds r ∧ s = r.toStorage := by
  rw [mem_loadAll hload]
  constructor
  · rintro ⟨row, hrow, hread⟩
    obtain ⟨r, hr⟩ := h row hrow
    exact ⟨row, hrow, r, hr, Except.ok.inj (hread.symm.trans hr.ofRow)⟩
  · rintro ⟨row, hrow, r, hr, rfl⟩
    exact ⟨row, hrow, hr.ofRow⟩

/-- The tables without the rows of a workspace. -/
def vacate (workspaceId : Cell) (t : Tables) : Tables :=
  { t with storages := t.storages.filter fun row => !row.has "workspaceId" workspaceId }

/-- Rows are gone, and all of them were rows of the workspace. -/
def PartlyVacated (workspaceId : Cell) (t after : Tables) : Prop :=
  ∃ keep : Row → Bool, after = { t with storages := t.storages.filter keep } ∧
    ∀ row ∈ t.storages, keep row = false → row.has "workspaceId" workspaceId = true

theorem PartlyVacated.refl (workspaceId : Cell) (t : Tables) : PartlyVacated workspaceId t t :=
  ⟨fun _ => true, by simp, by simp⟩

/-- In a normal table, a row that is found under the id of a listed storage of a workspace is a row
of the workspace. -/
theorem has_of_owned (h : t.IsNormal) {workspaceId : Cell} {storages : List Storage}
    (hload : loadAll (t.visibleIn workspaceId) = .ok storages) {row : Row}
    (hrow : row ∈ t.storages) {s : Storage}
    (hs : s ∈ storages.filter fun s => s.workspaceId.same workspaceId)
    (hid : row.hasId s.id = true) : row.has "workspaceId" workspaceId = true := by
  have hmem := mem_of_loadAll (fun row hrow => h.holds row (Tables.mem_visibleIn.1 hrow).1) hload
  obtain ⟨r, hr⟩ := h.holds row hrow
  obtain ⟨hs, howned⟩ := List.mem_filter.1 hs
  obtain ⟨row', hrow', r', hr', rfl⟩ := (hmem s).1 hs
  -- both rows are found under the id of the storage
  have hids : r.id = r'.id := (hr.hasId r'.id).1 hid
  have hfound := h.find? (Tables.mem_visibleIn.1 hrow').1 hr'
  rw [← hids, h.find? hrow hr] at hfound
  obtain rfl := Option.some.inj hfound
  rw [Row.has, hr'.workspaceId]
  exact howned

/-- In a normal table, the rows of the listed storages of a workspace are the rows of the
workspace. -/
theorem without_owned (h : t.IsNormal) {workspaceId : Cell} {storages : List Storage}
    (hload : loadAll (t.visibleIn workspaceId) = .ok storages) :
    without (storages.filter fun s => s.workspaceId.same workspaceId) t =
      vacate workspaceId t := by
  have hmem := mem_of_loadAll (fun row hrow => h.holds row (Tables.mem_visibleIn.1 hrow).1) hload
  rw [without, vacate]
  congr 1
  refine List.filter_congr fun row hrow => congrArg (!·) ?_
  rw [Bool.eq_iff_iff, List.any_eq_true]
  obtain ⟨r, hr⟩ := h.holds row hrow
  constructor
  · rintro ⟨s, hs, hid⟩
    exact has_of_owned h hload hrow hs hid
  · intro howned
    have hvisible : row ∈ t.visibleIn workspaceId := by
      rw [Tables.mem_visibleIn, Tables.isVisibleIn, howned]
      exact ⟨hrow, rfl⟩
    refine ⟨r.toStorage, List.mem_filter.2 ⟨(hmem _).2 ⟨row, hvisible, r, hr, rfl⟩, ?_⟩, ?_⟩
    · rw [Row.has, hr.workspaceId] at howned
      exact howned
    · exact (hr.hasId r.id).2 rfl

/-- **The storages of a workspace are all deleted**, and it had no system storage.  If this fails,
the tables are as they were, or a deletion failed and a part of the storages is deleted. -/
theorem clearWorkspace_ends (h : t.IsNormal) (workspaceId : String) :
    (clearWorkspace (.ofText workspaceId)).Ends env t n
      (fun _ w => w.tables = t ∨ (∃ k id m, env.fault k (.deleteStorage id) = some m) ∧
        PartlyVacated (.ofText workspaceId) t w.tables)
      (fun _ w => (∀ row ∈ t.storages, ∀ r : Record, row.Holds r → r.workspaceId = workspaceId →
          r.isSystem = false) ∧ w.tables = vacate (.ofText workspaceId) t) := by
  refine Reads.bind (list_reads _) (fun _ _ hw => .inl hw.tables) ?_
  intro storages hload
  have hmem := mem_of_loadAll (fun row hrow => h.holds row (Tables.mem_visibleIn.1 hrow).1) hload
  refine Reads.bind (reads_require _ _) (fun _ _ hw => .inl hw.tables) ?_
  intro _ hnone
  refine Ends.bind (Ends.mono (deleteAll_ends _) ?_ fun _ _ hw => hw) ?_
  · rintro _ w ⟨hfault, gone, hgone, htables⟩
    refine .inr ⟨hfault, _, htables, fun row hrow hkeep => ?_⟩
    obtain ⟨s, hs, hid⟩ : ∃ s ∈ gone, row.hasId s.id = true := by simpa using hkeep
    exact has_of_owned h hload hrow (hgone hs) hid
  intro _ w hw
  rw [hw.tables, without_owned h hload]
  refine Ends.mono (log_ends _) (fun _ _ h => h.elim) fun _ w' hw' => ⟨?_, hw'.tables⟩
  intro row hrow r hr howned
  -- the row is listed, so its storage is one of those that were looked at
  have hvisible : row ∈ t.visibleIn (.ofText workspaceId) := by
    rw [Tables.mem_visibleIn, Tables.isVisibleIn, Row.has, hr.workspaceId, howned]
    exact ⟨hrow, by simp [Cell.same, Cell.ofText]⟩
  have howner : (r.toStorage.workspaceId.same (.ofText workspaceId)) = true := by
    rw [Cell.same_ofText, ← howned]
    rfl
  have hmine : r.toStorage ∈ storages.filter fun s => s.workspaceId.same (.ofText workspaceId) :=
    List.mem_filter.2 ⟨(hmem _).2 ⟨row, hvisible, r, hr, rfl⟩, howner⟩
  rw [Bool.not_eq_true', List.any_eq_false] at hnone
  have hnot := hnone _ hmine
  rw [Record.isShared_toStorage] at hnot
  exact Bool.eq_false_iff.2 hnot

end Service

end Depository
