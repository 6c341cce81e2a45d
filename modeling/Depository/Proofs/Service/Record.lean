import Depository.Proofs.Service.Rows

/-!
# Records in the table of storages

A row of the table of storages that is as the service writes it holds a record: texts and a flag
where they belong, and a variant in normal form.  Such a row is read as its record
(`Row.Holds.ofRow`), and a record that is put over a row is held by it whatever the row held before
(`Row.holds_update`).

* `Record` — what such a row says, and `Record.toRow`, the row of a record;
* `Row.Holds` — the row says this;
* `Tables.IsNormal` — every row of the table of storages holds a record, of its own id.
-/

namespace Depository

/-! ### Records -/

/-- What a row of the table of storages says. -/
structure Record where
  id : String
  workspaceId : String
  name : String
  isSystem : Bool
  /-- Why the last connection test failed, if it did. -/
  lastSaveError : Option String
  variant : Variant

namespace Record

/-- The record as the service works on it. -/
def toStorage (r : Record) : Storage where
  id := .ofText r.id
  workspaceId := .ofText r.workspaceId
  name := .ofText r.name
  isSystem := some (.bool r.isSystem)
  lastSaveError := Storage.testOutcome r.lastSaveError
  variant := some r.variant

/-- The row of a record. -/
def toRow (r : Record) : Row :=
  ⟨[("id", .ofText r.id), ("workspaceId", .ofText r.workspaceId), ("name", .ofText r.name),
    ("type", .ofText r.variant.typeName), ("isSystem", some (.bool r.isSystem)),
    ("lastSaveError", Storage.testOutcome r.lastSaveError), ("config", some r.variant.payload)]⟩

/-- The storage tells the record. -/
theorem toStorage_injective : Function.Injective toStorage := by
  rintro ⟨id, workspaceId, name, isSystem, e, v⟩ ⟨id', workspaceId', name', isSystem', e', v'⟩ h
  simp only [toStorage, Storage.mk.injEq, Cell.ofText, Option.some.injEq, Json.string.injEq,
    Json.bool.injEq] at h
  obtain ⟨rfl, rfl, rfl, rfl, he, rfl⟩ := h
  cases e <;> cases e' <;> simp_all [Storage.testOutcome, Cell.ofText]

@[simp] theorem toRow_toStorage (r : Record) : r.toStorage.toRow = .ok r.toRow := rfl

@[simp] theorem isShared_toStorage (r : Record) : r.toStorage.isShared = r.isSystem := by
  cases h : r.isSystem <;> simp [Storage.isShared, toStorage, h, Cell.isTruthy, Json.isTruthy]

@[simp] theorem get?_id_toRow (r : Record) : r.toRow.get? "id" = .ofText r.id := rfl

/-- The record with its configuration as it is read again. -/
def reread (r : Record) : Record :=
  { r with variant := ⟨r.variant.backend, r.variant.backend.trim r.variant.config⟩ }

/-- The row of a record is read, whatever its configuration is. -/
theorem ofRow_toRow (r : Record) : Storage.ofRow r.toRow = .ok r.reread.toStorage := by
  have hrow : Storage.ofRow r.toRow = (do
      let variant ← Variant.parseNamed r.variant.typeName (some r.variant.payload)
      return { r.toStorage with variant }) := rfl
  rw [hrow, r.variant.parseNamed_payload]
  rfl

theorem reread_of_isNormal {r : Record} (h : r.variant.IsNormal) : r.reread = r := by
  obtain ⟨id, workspaceId, name, isSystem, lastSaveError, b, c⟩ := r
  simp only [reread, Variant.isNormal_iff.1 h]

end Record

/-! ### Rows that hold records -/

namespace Row

/-- The row says what the record says, and its configuration is in normal form. -/
structure Holds (row : Row) (r : Record) : Prop where
  id : row.get? "id" = .ofText r.id
  workspaceId : row.get? "workspaceId" = .ofText r.workspaceId
  name : row.get? "name" = .ofText r.name
  type : row.get? "type" = .ofText r.variant.typeName
  isSystem : row.get? "isSystem" = some (.bool r.isSystem)
  lastSaveError : row.get? "lastSaveError" = Storage.testOutcome r.lastSaveError
  config : row.get? "config" = some r.variant.payload
  normal : r.variant.IsNormal

variable {row : Row} {r old new : Record}

/-- **The row of a record is read as the record.** -/
theorem Holds.ofRow (h : row.Holds r) : Storage.ofRow row = .ok r.toStorage := by
  have hread : Storage.ofRow row = Storage.ofRow r.toRow := by
    have htype : row.text? "type" = r.toRow.text? "type" := congrArg Cell.text? h.type
    simp only [Storage.ofRow, htype, h.config, h.id, h.workspaceId, h.name, h.isSystem,
      h.lastSaveError]
    rfl
  rw [hread, r.ofRow_toRow, Record.reread_of_isNormal h.normal]

/-- Two records of one row are the same. -/
theorem Holds.unique {s : Record} (h : row.Holds r) (h' : row.Holds s) : r = s :=
  Record.toStorage_injective (Except.ok.inj (h.ofRow.symm.trans h'.ofRow))

/-- A row that holds a record has all its cells, and each of them has a value. -/
theorem Holds.cells (h : row.Holds r) :
    ∀ c ∈ r.toRow.columns, ∃ v, c.2 = some v ∧ row.get? c.1 = some v := by
  intro c hc
  simp only [Record.toRow, List.mem_cons, List.not_mem_nil, or_false] at hc
  rcases hc with rfl | rfl | rfl | rfl | rfl | rfl | rfl
  · exact ⟨_, rfl, h.id⟩
  · exact ⟨_, rfl, h.workspaceId⟩
  · exact ⟨_, rfl, h.name⟩
  · exact ⟨_, rfl, h.type⟩
  · exact ⟨_, rfl, h.isSystem⟩
  · cases herror : r.lastSaveError with
    | none => exact ⟨.null, rfl, h.lastSaveError.trans (by rw [herror]; rfl)⟩
    | some reason => exact ⟨.string reason, rfl, h.lastSaveError.trans (by rw [herror]; rfl)⟩
  · exact ⟨_, rfl, h.config⟩

/-- **Putting a record over the row that holds it changes nothing.** -/
theorem Holds.update_toRow (h : row.Holds r) : row.update r.toRow = row := update_of_get? h.cells

/-- **A record that differs in one cell from the one a row holds changes that cell only.** -/
theorem Holds.update_cell (h : row.Holds old) {before after : Members Cell} {change : String × Cell}
    (hnew : new.toRow.columns = before ++ change :: after)
    (hkept : ∀ c ∈ before ++ after, c ∈ old.toRow.columns)
    (hapart : ∀ c ∈ before, c.1 ≠ change.1) :
    row.update new.toRow = row.update ⟨[change]⟩ := by
  have hafter : row.update ⟨after⟩ = row :=
    update_of_get? fun c hc => h.cells c (hkept c (List.mem_append_right _ hc))
  have hbefore : (row.update ⟨[change]⟩).update ⟨before⟩ = row.update ⟨[change]⟩ := by
    refine update_of_get? fun c hc => ?_
    obtain ⟨v, hv, hcell⟩ := h.cells c (hkept c (List.mem_append_left _ hc))
    exact ⟨v, hv, (get?_update_cell (hapart c hc) change.2 row).trans hcell⟩
  -- the cells before the one that differs, that one, and the cells after it
  have hrow : new.toRow = ⟨before ++ ([change] ++ after)⟩ := congrArg Row.mk hnew
  rw [hrow, update_append, update_append, hafter, hbefore]

/-- What a row holds it has in the columns of the record. -/
theorem Holds.get? (h : row.Holds r) {column : String} {c : Cell}
    (hc : Members.get? column r.toRow.columns = some c) : row.get? column = c := by
  simp only [Record.toRow, Members.get?] at hc
  split_ifs at hc with h1 h2 h3 h4 h5 h6 h7 <;> subst_vars <;> rw [← Option.some.inj hc]
  exacts [h.id, h.workspaceId, h.name, h.type, h.isSystem, h.lastSaveError, h.config]

theorem holds_toRow (h : r.variant.IsNormal) : r.toRow.Holds r :=
  ⟨rfl, rfl, rfl, rfl, rfl, rfl, rfl, h⟩

/-- **A record that is put over a row is what the row holds.** -/
theorem holds_update (row : Row) (h : r.variant.IsNormal) : (row.update r.toRow).Holds r := by
  refine ⟨?_, ?_, ?_, ?_, ?_, ?_, ?_, h⟩ <;> rw [get?_update] <;> rfl

/-- Where a record is put over another one, the row keeps the columns in which they agree. -/
theorem Holds.get?_update (h : row.Holds old) {column : String}
    (hc : Members.get? column new.toRow.columns = Members.get? column old.toRow.columns) :
    (row.update new.toRow).get? column = row.get? column := by
  rw [Row.get?_update, hc]
  cases ho : Members.get? column old.toRow.columns with
  | none => rfl
  | some c => exact (h.get? ho).symm

theorem Holds.hasId (h : row.Holds r) (id : String) :
    row.hasId (.ofText id) = true ↔ r.id = id := by
  rw [Row.hasId, has, Cell.same_ofText, h.id, Cell.ofText, Cell.ofText, Option.some.injEq,
    Json.string.injEq]

end Row

/-! ### Normal tables -/

namespace Tables

/-- Every row of the table of storages holds a record, and no two have one id. -/
structure IsNormal (t : Tables) : Prop where
  holds : ∀ row ∈ t.storages, ∃ r : Record, row.Holds r
  nodup : (t.storages.map (Row.get? "id")).Nodup

variable {t : Tables} {row : Row} {r : Record}

theorem IsNormal.isKeyed (h : t.IsNormal) : t.IsKeyed := by
  refine ⟨fun row hrow => ?_, h.nodup⟩
  obtain ⟨r, hr⟩ := h.holds row hrow
  exact ⟨r.id, hr.id⟩

/-- A table with one row, which is that of a record, is normal. -/
theorem isNormal_of_toRow (hr : r.variant.IsNormal) (ht : t.storages = [r.toRow]) : t.IsNormal := by
  refine ⟨fun row hrow => ⟨r, ?_⟩, by simp [ht]⟩
  rw [ht] at hrow
  rw [List.mem_singleton.1 hrow]
  exact Row.holds_toRow hr

/-- What is found under an id is a record of that id. -/
theorem IsNormal.of_find? (h : t.IsNormal) {id : Cell} (hf : t.find? id = some row) :
    ∃ r : Record, row.Holds r ∧ id = .ofText r.id := by
  obtain ⟨r, hr⟩ := h.holds row (mem_of_find? hf)
  exact ⟨r, hr, (get?_id_of_find? hf).symm.trans hr.id⟩

/-- A row of a normal table is found under the id of its record. -/
theorem IsNormal.find? (h : t.IsNormal) (hrow : row ∈ t.storages) (hr : row.Holds r) :
    t.find? (.ofText r.id) = some row := h.isKeyed.find? hrow hr.id

/-- A table in which the storages are the same is as normal. -/
theorem IsNormal.of_storages {u : Tables} (h : t.IsNormal) (hs : u.storages = t.storages) :
    u.IsNormal := by
  obtain ⟨hh, hn⟩ := h
  exact ⟨hs ▸ hh, hs ▸ hn⟩

/-- A row that is there after a record was saved was there before, or is the row of the record, new
or put over another one. -/
theorem save_cases (h : row ∈ (t.save r.toRow).storages) :
    row ∈ t.storages ∨ row = r.toRow ∨ ∃ s : Row, row = s.update r.toRow := by
  rcases Row.put_cases r.toRow t.storages with ⟨-, hput⟩ | ⟨before, s, after, hs, -, -, hput⟩ <;>
    rw [Tables.save, hput] at h
  · exact (List.mem_append.1 h).imp_right fun h => .inl (List.mem_singleton.1 h)
  · rw [hs]
    rcases List.mem_append.1 h with h | h
    · exact .inl (List.mem_append_left _ h)
    · rcases List.mem_cons.1 h with rfl | h
      · exact .inr (.inr ⟨s, rfl⟩)
      · exact .inl (List.mem_append_right _ (List.mem_cons_of_mem _ h))

/-- A row that is there after a record was saved was there before, or holds the record. -/
theorem mem_save (hr : r.variant.IsNormal) (h : row ∈ (t.save r.toRow).storages) :
    row ∈ t.storages ∨ row.Holds r := by
  rcases save_cases h with h | rfl | ⟨s, rfl⟩
  · exact .inl h
  · exact .inr (Row.holds_toRow hr)
  · exact .inr (Row.holds_update s hr)

/-- **Saving a record keeps the table normal.** -/
theorem IsNormal.save (h : t.IsNormal) (hr : r.variant.IsNormal) :
    (t.save r.toRow).IsNormal := by
  refine ⟨fun row hrow => ?_, (h.isKeyed.save r.get?_id_toRow).nodup⟩
  rcases mem_save hr hrow with hrow | hrow
  · exact h.holds row hrow
  · exact ⟨r, hrow⟩

/-- A table of which only some rows are left is as normal. -/
theorem IsNormal.filter (h : t.IsNormal) (keep : Row → Bool) :
    IsNormal { t with storages := t.storages.filter keep } :=
  ⟨fun row hrow => h.holds row (List.mem_of_mem_filter hrow),
    h.nodup.sublist ((List.filter_sublist ..).map _)⟩

/-- Deleting a storage keeps the table normal. -/
theorem IsNormal.delete (h : t.IsNormal) (id : Cell) : (t.delete id).IsNormal := h.filter _

/-- Where only some rows of a normal table are left, what is found is what was found before, if it
is left. -/
theorem IsNormal.find?_filter (h : t.IsNormal) (keep : Row → Bool) (id : Cell) :
    Tables.find? id { t with storages := t.storages.filter keep } = (t.find? id).filter keep :=
  h.isKeyed.find?_filter keep id

/-! ### Where a table changes -/

/-- A record of an id that is not there is put at the end. -/
theorem storages_save_new (hf : t.find? (.ofText r.id) = none) :
    (t.save r.toRow).storages = t.storages ++ [r.toRow] := by
  rcases Row.put_cases r.toRow t.storages with ⟨-, hput⟩ | ⟨_, _, _, -, -, hfind, -⟩
  · exact hput
  · have hsome := hf.symm.trans hfind
    cases hsome

/-- A record of an id that is there is put over the row of the id, and every other row stays. -/
theorem storages_save_over (hf : t.find? (.ofText r.id) = some row) :
    ∃ before after, t.storages = before ++ row :: after ∧
      (t.save r.toRow).storages = before ++ row.update r.toRow :: after := by
  rcases Row.put_cases r.toRow t.storages with ⟨hnone, -⟩ | ⟨before, s, after, hs, -, hfind, hput⟩
  · -- the row that is found would be one of those that have another id
    have hid : row.hasId (.ofText r.id) = true := hasId_of_find? hf
    rw [Record.get?_id_toRow] at hnone
    rw [hnone row (mem_of_find? hf)] at hid
    cases hid
  · obtain rfl := Option.some.inj (hf.symm.trans hfind)
    exact ⟨before, after, hs, hput⟩

/-- A record that is saved as it is changes nothing. -/
theorem save_of_holds (hf : t.find? (.ofText r.id) = some row) (hr : row.Holds r) :
    t.save r.toRow = t := by
  obtain ⟨before, after, hs, hsave⟩ := storages_save_over hf
  rw [hr.update_toRow, ← hs] at hsave
  exact congrArg (fun storages => { t with storages }) hsave

/-- A deletion takes out the row that is found, and every other row stays. -/
theorem IsNormal.storages_delete (h : t.IsNormal) {id : Cell} (hf : t.find? id = some row) :
    ∃ before after, t.storages = before ++ row :: after ∧
      (t.delete id).storages = before ++ after := by
  obtain ⟨before, after, hs⟩ := List.append_of_mem (mem_of_find? hf)
  have hrow := hasId_of_find? hf
  have hother : ∀ other ∈ before ++ after, (!other.hasId id) = true := by
    intro other hmem
    rw [Bool.not_eq_true', Bool.eq_false_iff]
    -- another row of the id would repeat it
    intro hid
    have hn := h.nodup
    rw [hs, List.map_append, List.map_cons, List.nodup_middle, List.nodup_cons,
      ← List.map_append] at hn
    refine hn.1 (List.mem_map.2 ⟨other, hmem, ?_⟩)
    rw [(Row.hasId_iff.1 hid).1, (Row.hasId_iff.1 hrow).1]
  refine ⟨before, after, hs, ?_⟩
  rw [Tables.delete, hs, List.filter_append, List.filter_cons_of_neg (by simp [hrow]),
    ← List.filter_append, List.filter_eq_self.2 hother]

end Tables

end Depository
