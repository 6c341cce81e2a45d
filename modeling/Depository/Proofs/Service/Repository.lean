import Depository.Proofs.Service.Coherence
import Depository.Proofs.Service.Recording

/-!
# The table of storages keeps what is put into it

A storage is written to its row as JSON, and whoever gets it from there checks it again like
something that was submitted.  That is no loss, since what was read once is read again as it is.  So
for records that were submitted the table is a map from ids: what is saved is found, what is deleted
is gone, and every other record stays as it is and where it is.

* `Tables.mem_listed_iff` — the records in the list of a workspace;
* `Service.run_find?` — a record is found by what stands in the table under its id;
* `Service.run_store` — a record in normal form is saved as it is;
* `Service.repository_keeps` — **nothing is lost between an operation and the table.**
-/

namespace Depository

namespace Tables

variable {t : Tables}

/-- In the list of a workspace are its records and those of system storages. -/
theorem mem_listed_iff {workspaceId : String} {rs : List Record}
    (hrs : List.Forall₂ Row.Holds (t.visibleIn (.ofText workspaceId)) rs) (r : Record) :
    r ∈ rs ↔ (∃ row ∈ t.storages, row.Holds r) ∧
      (r.workspaceId = workspaceId ∨ r.isSystem = true) := by
  rw [Service.mem_records_iff hrs, ← exists_and_right]
  refine exists_congr fun row => ?_
  rw [mem_visibleIn, and_assoc, and_assoc]
  refine and_congr_right fun _ => ?_
  rw [and_comm]
  exact and_congr_right fun hr => hr.isVisibleIn workspaceId

/-- There is no row to take out. -/
theorem storages_delete_of_none {id : Cell} (hf : t.find? id = none) :
    (t.delete id).storages = t.storages :=
  List.filter_eq_self.2 fun row hrow => by simpa using List.find?_eq_none.1 hf row hrow

end Tables

theorem Cell.same_eq_false {a b : Cell} (h : b ≠ a) : a.same b = false :=
  Bool.eq_false_iff.2 fun hsame => h (same_iff.1 hsame).1.symm

namespace Service

open Operation

variable {env : Environment} {w : World} {r : Record}

/-- What comes of looking for an id depends on what stands under it in the table. -/
theorem run_find? (ha : env.Answers) (id : Cell) (w : World) :
    (find? id).run env w =
      (loadOption (w.tables.find? id), { w with instructions := w.instructions + 1 }) := by
  have hfault : env.fault w.instructions (.findStorage id) = none := ha.fault_eq_none (by simp) _
  rw [find?, run_bind, run_request hfault]
  rfl

/-- A record in normal form is saved as it is. -/
theorem run_store (ha : env.Answers) (hr : r.variant.IsNormal) (w : World) :
    ((store r.toStorage).run env w).1 = .ok r.toStorage ∧
      ((store r.toStorage).run env w).2.tables = w.tables.save r.toRow := by
  rcases (store_saves ha r).run w.at_self with ⟨s, hout, hw, rfl⟩ | ⟨e, -, hfalse⟩
  · rw [Record.reread_of_isNormal hr] at hout
    exact ⟨hout, hw.tables⟩
  · exact hfalse.elim

theorem run_delete (ha : env.Answers) (id : Cell) (w : World) :
    ((request (.deleteStorage id)).run env w).1 = .ok () ∧
      ((request (.deleteStorage id)).run env w).2.tables = w.tables.delete id := by
  have hfault : env.fault w.instructions (.deleteStorage id) = none := ha.fault_eq_none (by simp) _
  rw [run_request hfault]
  exact ⟨rfl, rfl⟩

theorem find?_congr (ha : env.Answers) {w w' : World} {id : Cell}
    (h : w'.tables.find? id = w.tables.find? id) :
    ((find? id).run env w').1 = ((find? id).run env w).1 := by
  rw [run_find? ha, run_find? ha, h]

/-- **Nothing is lost between an operation and the table.**  A submitted configuration that is read
is read again as the same variant from what is written of it.  So take a table of such records, with
every question to it answered.  A record that is saved comes back as it is, is found under its id
afterwards, and under every other id the same is found as before.  A deletion takes out the row of
its id, if there is one, and leaves every other one in its place.  And the list of a workspace has
the records of the workspace and of system storages, each once and no others. -/
theorem repository_keeps :
    (∀ (b : Backend) (submitted : Option Json) (v : Variant), Variant.parse b submitted = .ok v →
      v.backend = b ∧ Variant.parse b (some v.payload) = .ok v) ∧
    ∀ (env : Environment) (w : World), env.Answers → w.tables.IsNormal →
      (∀ (r : Record) (submitted : Option Json),
        Variant.parse r.variant.backend submitted = .ok r.variant →
        let saved := (store r.toStorage).run env w
        saved.1 = .ok r.toStorage ∧ saved.2.tables.IsNormal ∧
        ((find? (.ofText r.id)).run env saved.2).1 = .ok (some r.toStorage) ∧
        ∀ id, id ≠ .ofText r.id →
          ((find? id).run env saved.2).1 = ((find? id).run env w).1) ∧
      (∀ id : String,
        let deleted := (request (.deleteStorage (.ofText id))).run env w
        deleted.1 = .ok () ∧ deleted.2.tables.IsNormal ∧
        (∀ row, w.tables.find? (.ofText id) = some row → ∃ before after,
          w.tables.storages = before ++ row :: after ∧
          deleted.2.tables.storages = before ++ after) ∧
        (w.tables.find? (.ofText id) = none → deleted.2.tables.storages = w.tables.storages) ∧
        ((find? (.ofText id)).run env deleted.2).1 = .ok none ∧
        ∀ other, other ≠ .ofText id →
          ((find? other).run env deleted.2).1 = ((find? other).run env w).1) ∧
      ∀ workspaceId : String, ∃ rs : List Record,
        ((list (.ofText workspaceId)).run env w).1 = .ok (rs.map Record.toStorage) ∧
        (rs.map Record.id).Nodup ∧
        ∀ r, r ∈ rs ↔ (∃ row ∈ w.tables.storages, row.Holds r) ∧
          (r.workspaceId = workspaceId ∨ r.isSystem = true) := by
  refine ⟨fun b submitted v hv => ?reparse, fun env w ha h => ⟨fun r submitted hr => ?save,
    fun id => ?delete, fun workspaceId => ?list⟩⟩
  case reparse =>
    obtain rfl := Variant.backend_of_parse hv
    exact ⟨rfl, Variant.isNormal_of_parse hv⟩
  case save =>
    intro saved
    have hnormal : r.variant.IsNormal := Variant.isNormal_of_parse hr
    obtain ⟨hout, htables⟩ := run_store ha hnormal w
    refine ⟨hout, htables ▸ h.save hnormal, ?_, fun id hid => find?_congr ha ?_⟩
    · obtain ⟨row, hfound, hrow⟩ := Tables.find?_of_save w.tables r
      rw [Record.reread_of_isNormal hnormal] at hrow
      rw [run_find? ha, htables, hfound, loadOption_of_ofRow hrow]
    · rw [htables, Tables.find?_save (Cell.same_ofText.2 rfl), Cell.same_eq_false hid]
      rfl
  case delete =>
    intro deleted
    obtain ⟨hout, htables⟩ := run_delete ha (.ofText id) w
    refine ⟨hout, htables ▸ h.delete _, fun row hrow => ?_, fun hnone => ?_, ?_,
      fun other hid => find?_congr ha ?_⟩
    · rw [htables]
      exact h.storages_delete hrow
    · rw [htables]
      exact Tables.storages_delete_of_none hnone
    · rw [run_find? ha, htables, Tables.find?_delete, if_pos (Cell.same_ofText.2 rfl)]
      rfl
    · rw [htables, Tables.find?_delete, Cell.same_eq_false hid]
      rfl
  case list =>
    obtain ⟨rs, hrs⟩ := exists_records fun row hrow => h.holds row (Tables.mem_visibleIn.1 hrow).1
    refine ⟨rs, (Gives.run (list_gives ha h hrs) w.at_self).1, ?_, Tables.mem_listed_iff hrs⟩
    have hids : ((rs.map Record.id).map Cell.ofText).Nodup := by
      rw [List.map_map]
      exact (map_id_records hrs).symm ▸ h.nodup_visibleIn _
    exact hids.of_map

/-- Into a table with a system storage a storage on an FTP server is put.  It comes back with its
password, both are in the list of its workspace, and once it is deleted it is not found. -/
theorem repository_keeps_backups :
    let env := Environment.undisturbed "key" (fun _ => "a") fun _ => []
    let disk : Record := ⟨"1", "x", "disk", true, none, ⟨.localDisk, {}⟩⟩
    let r : Record := ⟨"2", "w", "backups", false, none, Submission.backups.variant⟩
    let saved := (store r.toStorage).run env (.start ⟨[disk.toRow], [], [], []⟩)
    saved.1 = .ok r.toStorage ∧
      ((find? (.ofText "2")).run env saved.2).1 = .ok (some r.toStorage) ∧
      (∃ rs : List Record,
        ((list (.ofText "w")).run env saved.2).1 = .ok (rs.map Record.toStorage) ∧
        disk ∈ rs ∧ r ∈ rs) ∧
      let deleted := (request (.deleteStorage (.ofText "2"))).run env saved.2
      deleted.1 = .ok () ∧ ((find? (.ofText "2")).run env deleted.2).1 = .ok none := by
  intro env disk r saved
  have hanswers : env.Answers := Environment.answers_undisturbed _ _ _
  have hdisk : disk.variant.IsNormal := Variant.isNormal_iff.2 rfl
  obtain ⟨hsave, -, -⟩ := repository_keeps.2 env (.start ⟨[disk.toRow], [], [], []⟩) hanswers
    (Tables.isNormal_of_toRow hdisk rfl)
  obtain ⟨hout, hnormal, hfound, -⟩ := hsave r _ Submission.isParsed_backups.isNormal
  obtain ⟨-, hdelete, hlist⟩ := repository_keeps.2 env saved.2 hanswers hnormal
  obtain ⟨hdeleted, -, -, -, hgone, -⟩ := hdelete "2"
  obtain ⟨rs, hlisted, -, hmem⟩ := hlist "w"
  have hrows : saved.2.tables.storages = [disk.toRow, r.toRow] := rfl
  refine ⟨hout, hfound, ⟨rs, hlisted, (hmem disk).2 ⟨?_, .inr rfl⟩, (hmem r).2 ⟨?_, .inl rfl⟩⟩,
    hdeleted, hgone⟩
  · exact ⟨disk.toRow, by simp [hrows], Row.holds_toRow hdisk⟩
  · exact ⟨r.toRow, by simp [hrows], Row.holds_toRow Submission.isParsed_backups.isNormal⟩

end Service

end Depository
