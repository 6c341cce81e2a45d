import Depository.Proofs.Service.Record

/-!
# Rows that are read as records

A row need not be as the service writes it to be read as a record: where a text of the configuration
is not trimmed, the trimmed one is read.  This is less than `Row.Holds` says, but more is not needed
to tell what an operation did, and it stays so whatever is saved, even if it was read from no body.

* `Row.ReadAs` — the row is read as this record, and `Tables.IsNormal.holds_of_readAs` — in a normal
  table it holds the record then;
* `Tables.IsLegible` — every row is read as a record;
* `Tables.IsLegible.save`, `Tables.IsLegible.filter` — saving and deleting keep it so.
-/

namespace Depository

namespace Row

variable {row : Row} {r s : Record}

/-- The row is read as the record. -/
def ReadAs (row : Row) (r : Record) : Prop := Storage.ofRow row = .ok r.toStorage

/-- A row that a record is put over is read as the record, whatever its configuration is. -/
theorem readAs_update (row : Row) (r : Record) : (row.update r.toRow).ReadAs r.reread := by
  have hread : Storage.ofRow (row.update r.toRow) = Storage.ofRow r.toRow := by
    simp only [Storage.ofRow, Row.text?, get?_update]
    rfl
  exact hread.trans r.ofRow_toRow

theorem ReadAs.id (h : row.ReadAs r) : row.get? "id" = .ofText r.id :=
  (Storage.columns_of_ofRow h).1.symm

theorem ReadAs.name (h : row.ReadAs r) : row.get? "name" = .ofText r.name :=
  (Storage.name_of_ofRow h).symm

theorem ReadAs.workspaceId (h : row.ReadAs r) : row.get? "workspaceId" = .ofText r.workspaceId :=
  (Storage.columns_of_ofRow h).2.1.symm

end Row

namespace Tables

variable {t u : Tables} {id : Cell} {row : Row} {r : Record}

/-- Every row of the table of storages is read as a record. -/
def IsLegible (t : Tables) : Prop := ∀ row ∈ t.storages, ∃ r : Record, row.ReadAs r

theorem IsNormal.isLegible (h : t.IsNormal) : t.IsLegible := fun row hrow =>
  (h.holds row hrow).imp fun _ hr => hr.ofRow

/-- In a normal table a row holds the record that it is read as. -/
theorem IsNormal.holds_of_readAs (h : t.IsNormal) (hf : t.find? id = some row)
    (hr : row.ReadAs r) : row.Holds r := by
  obtain ⟨s, hs⟩ := h.holds row (mem_of_find? hf)
  rwa [Record.toStorage_injective (Except.ok.inj (hr.symm.trans hs.ofRow))]

/-- What is found under an id is read as a record of that id. -/
theorem IsLegible.of_find? (h : t.IsLegible) (hf : t.find? id = some row) :
    ∃ r : Record, row.ReadAs r ∧ id = .ofText r.id := by
  obtain ⟨r, hr⟩ := h row (mem_of_find? hf)
  exact ⟨r, hr, (get?_id_of_find? hf).symm.trans hr.id⟩

/-- What is found after a record was saved is read as the record. -/
theorem find?_of_save (t : Tables) (r : Record) :
    ∃ row, (t.save r.toRow).find? (.ofText r.id) = some row ∧ row.ReadAs r.reread := by
  have hid : r.toRow.hasId (.ofText r.id) = true := Cell.same_ofText.2 rfl
  refine ⟨_, (find?_save hid t _).trans (if_pos (Cell.same_ofText.2 rfl)), ?_⟩
  cases t.find? (.ofText r.id) with
  | none => exact r.ofRow_toRow
  | some row => exact row.readAs_update r

theorem IsLegible.of_storages (h : t.IsLegible) (hs : u.storages = t.storages) : u.IsLegible := by
  rw [IsLegible, hs]
  exact h

/-- **Any record may be saved.** -/
theorem IsLegible.save (h : t.IsLegible) (r : Record) : (t.save r.toRow).IsLegible := by
  intro row hrow
  rcases save_cases hrow with hrow | rfl | ⟨s, rfl⟩
  · exact h row hrow
  · exact ⟨r.reread, r.ofRow_toRow⟩
  · exact ⟨r.reread, s.readAs_update r⟩

/-- Any rows may be taken out. -/
theorem IsLegible.filter (h : t.IsLegible) (keep : Row → Bool) :
    IsLegible { t with storages := t.storages.filter keep } :=
  fun row hrow => h row (List.mem_of_mem_filter hrow)

end Tables

end Depository
