import Depository.Proofs.Service.Conditions
import Depository.Proofs.Service.Remove
import Depository.Proofs.Service.Repository

/-!
# When the storages of a workspace are removed

Before a workspace is removed its storages are deleted one after another.  They come from a list in
which the system storages of other workspaces are as well, and these stay.  A system storage of the
workspace itself keeps all of them from being deleted, wherever in the list it stands.

* `Tables.Blocks` — the workspace has a system storage;
* `Service.clearWorkspace_isDecidedBy` — nothing else is checked, and `Service.run_clearWorkspace` —
  what comes of a run;
* `Service.clearWorkspace_exact` — **exactly the storages of other workspaces are left**, or all of
  them, and another run changes nothing.
-/

namespace Depository

/-! ### Blocked workspaces -/

namespace Tables

variable {t : Tables}

/-- A system storage of the workspace keeps the workspace from being removed. -/
def Blocks (t : Tables) (workspaceId : String) : Prop :=
  ∃ row ∈ t.storages, row.get? "workspaceId" = .ofText workspaceId ∧
    row.get? "isSystem" = some (.bool true)

/-- A workspace is blocked by the record of a system storage. -/
theorem IsNormal.blocks_iff (h : t.IsNormal) {workspaceId : String} :
    t.Blocks workspaceId ↔ ∃ r : Record, (∃ row ∈ t.storages, row.Holds r) ∧
      r.workspaceId = workspaceId ∧ r.isSystem = true := by
  constructor
  · rintro ⟨row, hrow, howned, hsystem⟩
    obtain ⟨r, hr⟩ := h.holds row hrow
    rw [hr.workspaceId] at howned
    rw [hr.isSystem] at hsystem
    exact ⟨r, ⟨row, hrow, hr⟩, by simpa [Cell.ofText] using howned, by simpa using hsystem⟩
  · rintro ⟨r, ⟨row, hrow, hr⟩, rfl, hsystem⟩
    exact ⟨row, hrow, hr.workspaceId, by rw [hr.isSystem, hsystem]⟩

end Tables

namespace Service

open Operation

variable {env : Environment} {t : Tables} {n : Nat} {w : World} {workspaceId : String}

/-! ### Tables without a workspace -/

theorem mem_vacate {row : Row} : row ∈ (vacate (.ofText workspaceId) t).storages ↔
    row ∈ t.storages ∧ row.get? "workspaceId" ≠ .ofText workspaceId := by
  rw [vacate, List.mem_filter, Bool.not_eq_true', Bool.eq_false_iff, Row.has, Ne,
    Cell.same_ofText]

theorem vacate_vacate (workspaceId : Cell) (t : Tables) :
    vacate workspaceId (vacate workspaceId t) = vacate workspaceId t := by
  simp only [vacate, List.filter_filter, Bool.and_self]

theorem not_blocks_vacate : ¬(vacate (.ofText workspaceId) t).Blocks workspaceId := by
  rintro ⟨row, hrow, howned, -⟩
  exact (mem_vacate.1 hrow).2 howned

/-! ### A run -/

/-- The list of a workspace has a system storage of the workspace if the table has one. -/
theorem any_isShared_owned (h : t.IsNormal) {rs : List Record}
    (hrs : List.Forall₂ Row.Holds (t.visibleIn (.ofText workspaceId)) rs) :
    (((rs.map Record.toStorage).filter fun s => s.workspaceId.same (.ofText workspaceId)).any
      Storage.isShared) = true ↔ t.Blocks workspaceId := by
  have howned : ∀ r : Record, r.toStorage.workspaceId.same (.ofText workspaceId) = true ↔
      r.workspaceId = workspaceId := fun r => by
    rw [Cell.same_ofText]
    simp [Record.toStorage, Cell.ofText]
  rw [h.blocks_iff, List.any_eq_true]
  simp only [List.mem_filter, List.mem_map]
  constructor
  · rintro ⟨_, ⟨⟨r, hr, rfl⟩, hworkspace⟩, hshared⟩
    rw [Record.isShared_toStorage] at hshared
    exact ⟨r, ((Tables.mem_listed_iff hrs r).1 hr).1, (howned r).1 hworkspace, hshared⟩
  · rintro ⟨r, hr, hworkspace, hsystem⟩
    refine ⟨r.toStorage, ⟨⟨r, ?_, rfl⟩, (howned r).2 hworkspace⟩, ?_⟩
    · exact (Tables.mem_listed_iff hrs r).2 ⟨hr, .inl hworkspace⟩
    · rwa [Record.isShared_toStorage]

/-- Where every question to a table is answered, all deletions succeed. -/
theorem deleteAll_deletes (ha : env.Answers) (storages : List Storage) :
    (deleteAll storages).Ends env t n (fun _ _ => False)
      fun _ w => w.At (without storages t) n := by
  refine Ends.mono (deleteAll_ends storages) ?_ fun _ _ hw => hw
  rintro _ _ ⟨⟨k, id, m, hfault⟩, -⟩
  cases (ha.fault_eq_none (by simp) k).symm.trans hfault

/-- **Only a system storage of the workspace keeps its storages from being deleted.** -/
theorem clearWorkspace_isDecidedBy (ha : env.Answers) (h : t.IsNormal) (workspaceId : String) :
    (clearWorkspace (.ofText workspaceId)).IsDecidedBy env t n
      [⟨¬t.Blocks workspaceId, .systemStorage .blocksWorkspaceDeletion⟩] := by
  obtain ⟨rs, hrs⟩ := exists_records fun row hrow => h.holds row (Tables.mem_visibleIn.1 hrow).1
  refine Gives.bind (list_gives ha h hrs) ?_
  refine isDecidedBy_cons (tells_condition ?_) (fun _ hc => hc) fun _ _ => ?_
  · rw [← any_isShared_owned h hrs, Bool.not_eq_true', Bool.not_eq_true]
  refine isDecidedBy_nil (S := fun _ _ => True) (Ends.bind (deleteAll_deletes ha _) ?_)
  rintro _ w hw
  exact Ends.mono (log_ends _) (fun _ _ hfalse => hfalse) fun _ _ _ => trivial

theorem run_clearWorkspace (ha : env.Answers) (h : w.tables.IsNormal) (workspaceId : String) :
    let ended := (clearWorkspace (.ofText workspaceId)).run env w
    (w.tables.Blocks workspaceId →
      ended.1 = .error (.systemStorage .blocksWorkspaceDeletion) ∧ ended.2.tables = w.tables) ∧
    (¬w.tables.Blocks workspaceId →
      ended.1 = .ok () ∧ ended.2.tables = vacate (.ofText workspaceId) w.tables) := by
  intro ended
  obtain ⟨hdone, hfailed⟩ := (clearWorkspace_isDecidedBy ha h workspaceId).run
  have hclears : (clearWorkspace (.ofText workspaceId)).Ends env w.tables w.ids _ _ :=
    clearWorkspace_ends h workspaceId
  refine ⟨fun hblocks => ?_, fun hfree => ?_⟩
  · have he : ended.1 = .error _ :=
      (hfailed _).2 ⟨[], _, [], rfl, by simp, not_not_intro hblocks, rfl⟩
    refine ⟨he, ?_⟩
    obtain hsame | ⟨⟨k, id, m, hfault⟩, -⟩ := hclears.of_error w.at_self he
    · exact hsame
    · cases (ha.fault_eq_none (by simp) k).symm.trans hfault
  · obtain ⟨⟨⟩, hok⟩ := hdone.2 (by simpa using hfree)
    exact ⟨hok, (hclears.of_ok w.at_self hok).2⟩

/-- **Exactly the storages of other workspaces are left.**  Take any table of records, with every
question to it answered.  If the workspace has a system storage, this is what the failure says, and
nothing is deleted.  Otherwise what is left are the rows of other workspaces, those of their system
storages included, each as it was and in the same order.  Either way the same comes of another run,
and it changes nothing. -/
theorem clearWorkspace_exact (h : w.tables.IsNormal) (ha : env.Answers) (workspaceId : String) :
    let t := w.tables
    let clear := clearWorkspace (.ofText workspaceId)
    let ended := clear.run env w
    (t.Blocks workspaceId →
      ended.1 = .error (.systemStorage .blocksWorkspaceDeletion) ∧ ended.2.tables = t) ∧
    (¬t.Blocks workspaceId →
      ended.1 = .ok () ∧ ended.2.tables = vacate (.ofText workspaceId) t ∧
      ∀ row, row ∈ ended.2.tables.storages ↔
        row ∈ t.storages ∧ row.get? "workspaceId" ≠ .ofText workspaceId) ∧
    ∀ (env' : Environment) (w' : World), env'.Answers → w'.tables = ended.2.tables →
      let again := clear.run env' w'
      again.1 = ended.1 ∧ again.2.tables = ended.2.tables := by
  intro t clear ended
  obtain ⟨hblocked, hfree⟩ := run_clearWorkspace ha h workspaceId
  refine ⟨hblocked, fun hnot => ?free, fun env' w' ha' hw' => ?again⟩
  case free =>
    obtain ⟨hok, hleft⟩ := hfree hnot
    refine ⟨hok, hleft, fun row => ?_⟩
    rw [hleft]
    exact mem_vacate
  case again =>
    by_cases hblocks : t.Blocks workspaceId
    · obtain ⟨he, hsame⟩ := hblocked hblocks
      have hw : w'.tables = t := hw'.trans hsame
      obtain ⟨he', hsame'⟩ := (run_clearWorkspace ha' (hw ▸ h) workspaceId).1 (hw ▸ hblocks)
      exact ⟨he'.trans he.symm, hsame'.trans hw'⟩
    · obtain ⟨hok, hleft⟩ := hfree hblocks
      have hw : w'.tables = vacate (.ofText workspaceId) t := hw'.trans hleft
      have hnormal : w'.tables.IsNormal := hw ▸ h.filter _
      obtain ⟨hok', hleft'⟩ := (run_clearWorkspace ha' hnormal workspaceId).2
        (hw ▸ not_blocks_vacate)
      refine ⟨hok'.trans hok.symm, ?_⟩
      rw [hleft', hw, vacate_vacate]
      exact hleft.symm

/-- Of two workspaces one has a system storage.  The other one can be removed, and this one not. -/
theorem clearWorkspace_exact_shared :
    let env := Environment.undisturbed "key" (fun _ => "b") fun _ => []
    let disk : Record := ⟨"1", "w", "disk", false, none, ⟨.localDisk, {}⟩⟩
    let shared : Record := ⟨"2", "x", "shared", true, none, ⟨.localDisk, {}⟩⟩
    let t : Tables := ⟨[disk.toRow, shared.toRow], [], [], []⟩
    let ended := fun workspaceId : String =>
      (clearWorkspace (.ofText workspaceId)).run env (.start t)
    (ended "w").1 = .ok () ∧ (ended "w").2.tables.storages = [shared.toRow] ∧
      (ended "x").1 = .error (.systemStorage .blocksWorkspaceDeletion) ∧
      (ended "x").2.tables = t := by
  intro env disk shared t ended
  have hnormal : t.IsNormal := by
    refine ⟨?_, by simp [t, Cell.ofText, disk, shared]⟩
    simp only [t, List.forall_mem_cons]
    exact ⟨⟨disk, Row.holds_toRow rfl⟩, ⟨shared, Row.holds_toRow rfl⟩, List.forall_mem_nil _⟩
  have hexact := @clearWorkspace_exact env (.start t) hnormal
    (Environment.answers_undisturbed _ _ _)
  have hfree : ¬t.Blocks "w" := by
    simp [Tables.Blocks, t, disk, shared, Record.toRow, Row.get?, Members.get?, Cell.ofText]
  have hblocked : t.Blocks "x" := ⟨shared.toRow, by simp [t], rfl, rfl⟩
  obtain ⟨hok, hleft, -⟩ := (hexact "w").2.1 hfree
  obtain ⟨he, hsame⟩ := (hexact "x").1 hblocked
  refine ⟨hok, ?_, he, hsame⟩
  rw [hleft]
  rfl

end Service

end Depository
