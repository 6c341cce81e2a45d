import Depository.Proofs.Variant
import Depository.Service.Tables
import Depository.Storage.Basic
import Mathlib.Data.List.Nodup

/-!
# Rows of any form

A row of the table of storages need not be one that the service would write: it may lack columns,
or have values in them that make no sense there.  Here is what holds all the same, of the storage
that is read from a row, of a row that is put over another one, and of tables in which the ids of
the rows are texts and are not repeated.

* `Storage.columns_of_ofRow`, `Storage.ofRow_toRow` — a storage and the row that it is read from or
  written to;
* `Row.put_cases` — where in a table a row is put, and `Row.find?_changeFirst`, what is found where
  one row is changed;
* `Tables.IsKeyed` — every row has an id of its own.
-/

namespace Depository

/-- Putting a value where it is already changes nothing. -/
theorem Members.set_of_get? {α : Type} {name : String} {value : α} {ms : Members α}
    (h : get? name ms = some value) : set name value ms = ms := by
  induction ms with
  | nil => cases h
  | cons m ms ih =>
    by_cases hm : m.1 = name
    · obtain rfl : m.2 = value := by simpa [get?, hm] using h
      simp [set, hm.symm]
    · rw [get?, if_neg hm] at h
      rw [set, if_neg hm, ih h]

/-! ### Storages and their rows -/

namespace Storage

variable {s : Storage} {row : Row}

/-- A row is read as its columns and the variant of its configuration. -/
theorem exists_parse_of_ofRow (h : ofRow row = .ok s) :
    ∃ variant, Variant.parseNamed ((row.text? "type").getD "") (row.get? "config") = .ok variant ∧
      s = { id := row.get? "id", workspaceId := row.get? "workspaceId", name := row.get? "name"
            isSystem := row.get? "isSystem", lastSaveError := row.get? "lastSaveError"
            variant } := by
  rw [ofRow] at h
  cases hv : Variant.parseNamed ((row.text? "type").getD "") (row.get? "config") with
  | error e =>
    rw [hv] at h
    cases h
  | ok v =>
    rw [hv] at h
    exact ⟨v, rfl, (Except.ok.inj h).symm⟩

/-- What the service has of a storage besides its configuration is what its row has. -/
theorem eq_of_ofRow (h : ofRow row = .ok s) :
    s = { id := row.get? "id", workspaceId := row.get? "workspaceId", name := row.get? "name"
          isSystem := row.get? "isSystem", lastSaveError := row.get? "lastSaveError"
          variant := s.variant } := by
  obtain ⟨v, -, rfl⟩ := exists_parse_of_ofRow h
  rfl

theorem columns_of_ofRow (h : ofRow row = .ok s) :
    s.id = row.get? "id" ∧ s.workspaceId = row.get? "workspaceId" ∧
      s.isSystem = row.get? "isSystem" :=
  ⟨congrArg id (eq_of_ofRow h), congrArg workspaceId (eq_of_ofRow h),
    congrArg isSystem (eq_of_ofRow h)⟩

theorem name_of_ofRow (h : ofRow row = .ok s) : s.name = row.get? "name" :=
  congrArg name (eq_of_ofRow h)

/-- The storage of a row whose configuration can be read. -/
theorem ofRow_of_parse {v : Variant}
    (h : Variant.parseNamed ((row.text? "type").getD "") (row.get? "config") = .ok (some v)) :
    ofRow row = .ok
      { id := row.get? "id", workspaceId := row.get? "workspaceId", name := row.get? "name"
        isSystem := row.get? "isSystem", lastSaveError := row.get? "lastSaveError"
        variant := some v } := by
  rw [ofRow, h]
  rfl

/-- A row that is not read has an invalid configuration. -/
theorem invalid_of_ofRow {e : Failure} (h : ofRow row = .error e) :
    ∃ cause, e = .invalid cause := by
  rw [ofRow, Variant.parseNamed] at h
  cases hname : Backend.ofName? ((row.text? "type").getD "") with
  | none =>
    rw [hname] at h
    cases h
  | some b =>
    rw [hname] at h
    dsimp only at h
    cases hv : Variant.parse b (row.get? "config") with
    | ok v =>
      rw [hv] at h
      cases h
    | error e' =>
      rw [hv] at h
      obtain rfl := Except.error.inj h
      exact Variant.invalid_of_parse hv

/-- The row of a storage of a known backend. -/
theorem exists_variant_of_toRow (h : s.toRow = .ok row) :
    ∃ v, s.variant = some v ∧ row = ⟨[("id", s.id), ("workspaceId", s.workspaceId),
      ("name", s.name), ("type", .ofText v.typeName), ("isSystem", s.isSystem),
      ("lastSaveError", s.lastSaveError), ("config", some v.payload)]⟩ := by
  rw [toRow, knownVariant] at h
  cases hv : s.variant with
  | none =>
    rw [hv] at h
    cases h
  | some v =>
    rw [hv] at h
    exact ⟨v, rfl, (Except.ok.inj h).symm⟩

theorem get?_id_of_toRow (h : s.toRow = .ok row) : row.get? "id" = s.id := by
  obtain ⟨v, -, rfl⟩ := exists_variant_of_toRow h
  rfl

/-- What was written of a storage can be read again. -/
theorem ofRow_toRow (h : s.toRow = .ok row) : ∃ variant, ofRow row = .ok { s with variant } := by
  obtain ⟨v, -, rfl⟩ := exists_variant_of_toRow h
  have hread : ofRow ⟨[("id", s.id), ("workspaceId", s.workspaceId), ("name", s.name),
      ("type", .ofText v.typeName), ("isSystem", s.isSystem), ("lastSaveError", s.lastSaveError),
      ("config", some v.payload)]⟩ = (do
        let variant ← Variant.parseNamed v.typeName (some v.payload)
        return { s with variant }) := rfl
  rw [hread, v.parseNamed_payload]
  exact ⟨_, rfl⟩

end Storage

/-! ### Rows put over others -/

namespace Row

variable {row : Row}

/-- A cell with a value that is put over a row is what the row has then. -/
theorem get?_update_of_some {column : String} {changes : Row} {v : Json}
    (h : changes.get? column = some v) (row : Row) :
    (row.update changes).get? column = some v := by
  rw [get?_update]
  rw [Row.get?] at h
  cases hc : Members.get? column changes.columns with
  | none =>
    rw [hc] at h
    cases h
  | some c =>
    rw [hc] at h
    exact h

/-- One cell that is put over a row leaves the other columns as they are. -/
theorem get?_update_cell {column name : String} (h : column ≠ name) (value : Cell) (row : Row) :
    (row.update ⟨[(name, value)]⟩).get? column = row.get? column := by
  rw [get?_update]
  simp [Members.get?, h.symm]

/-- Cells that are put over a row one list after another. -/
theorem update_append (row : Row) (first last : Members Cell) :
    row.update ⟨first ++ last⟩ = (row.update ⟨last⟩).update ⟨first⟩ := by
  simp only [update, List.foldr_append]

/-- A row that is put over one that has all its cells changes nothing. -/
theorem update_of_get? {changes : Row}
    (h : ∀ c ∈ changes.columns, ∃ v, c.2 = some v ∧ row.get? c.1 = some v) :
    row.update changes = row := by
  obtain ⟨cs⟩ := changes
  obtain ⟨columns⟩ := row
  simp only [update, mk.injEq]
  induction cs with
  | nil => rfl
  | cons c cs ih =>
    obtain ⟨name, value⟩ := c
    obtain ⟨v, rfl, hv⟩ := h (name, value) (List.mem_cons_self ..)
    rw [List.foldr_cons, ih fun c hc => h c (List.mem_cons_of_mem _ hc)]
    -- a column with a value is one that the row has
    refine Members.set_of_get? ?_
    exact Option.join_eq_some_iff.1 hv

/-- **A row is put at the end of a table, or over the first row of its id.** -/
theorem put_cases (row : Row) (rows : List Row) :
    ((∀ r ∈ rows, r.hasId (row.get? "id") = false) ∧ put row rows = rows ++ [row]) ∨
    ∃ before r after, rows = before ++ r :: after ∧ r.hasId (row.get? "id") = true ∧
      find? (row.get? "id") rows = some r ∧
      put row rows = before ++ r.update row :: after := by
  induction rows with
  | nil => exact .inl ⟨by simp, rfl⟩
  | cons r rest ih =>
    cases hr : r.hasId (row.get? "id") with
    | true =>
      refine .inr ⟨[], r, rest, rfl, hr, ?_, ?_⟩
      · simp [find?, hr]
      · simp [put, hr]
    | false =>
      have hput : put row (r :: rest) = r :: put row rest := by simp [put, hr]
      rcases ih with ⟨hnone, hend⟩ | ⟨before, s, after, rfl, hs, hfind, hover⟩
      · refine .inl ⟨List.forall_mem_cons.2 ⟨hr, hnone⟩, ?_⟩
        rw [hput, hend, List.cons_append]
      · refine .inr ⟨r :: before, s, after, rfl, hs, ?_, ?_⟩
        · simpa [find?, hr] using hfind
        · rw [hput, hover, List.cons_append]

/-! ### One row changed -/

variable {id : Cell} {rows : List Row}

/-- Where no row has the id, there is none to change. -/
theorem changeFirst_of_none {change : Row → Row} (h : find? id rows = none) :
    changeFirst id change rows = rows := by
  induction rows with
  | nil => rfl
  | cons s rest ih =>
    have hs : ¬s.hasId id = true := List.find?_eq_none.1 h s (List.mem_cons_self ..)
    have hrest : find? id rest = none := by simpa [find?, hs] using h
    rw [changeFirst, if_neg hs, ih hrest]

/-- Two changes of a table are the same if they do the same to the row that is found. -/
theorem changeFirst_congr {f g : Row → Row} (h : ∀ s, find? id rows = some s → f s = g s) :
    changeFirst id f rows = changeFirst id g rows := by
  induction rows with
  | nil => rfl
  | cons s rest ih =>
    rw [changeFirst, changeFirst]
    by_cases hs : s.hasId id = true
    · have hsame : f s = g s := h s (by simp [find?, hs])
      rw [if_pos hs, if_pos hs, hsame]
    · have hrest : ∀ s', find? id rest = some s' → f s' = g s' := fun s' hs' =>
        h s' (by simpa [find?, hs] using hs')
      rw [if_neg hs, if_neg hs, ih hrest]

/-- A row whose id is there is put over the first row of it. -/
theorem put_eq_changeFirst (h : find? (row.get? "id") rows ≠ none) :
    put row rows = changeFirst (row.get? "id") (·.update row) rows := by
  induction rows with
  | nil => exact absurd rfl h
  | cons s rest ih =>
    rw [put, changeFirst]
    by_cases hs : s.hasId (row.get? "id") = true
    · rw [if_pos hs, if_pos hs]
    · have hrest : find? (row.get? "id") rest ≠ none := by simpa [find?, hs] using h
      rw [if_neg hs, if_neg hs, ih hrest]

/-- A row that is changed and keeps its id is found in its place. -/
theorem find?_changeFirst {change : Row → Row} (h : ∀ s, (change s).get? "id" = s.get? "id")
    (id : Cell) (rows : List Row) :
    find? id (changeFirst id change rows) = (find? id rows).map change := by
  induction rows with
  | nil => rfl
  | cons s rest ih =>
    have hid : (change s).hasId id = s.hasId id := congrArg (Cell.same · id) (h s)
    rw [changeFirst]
    by_cases hs : s.hasId id = true
    · simp [find?, hs, hid]
    · simp only [find?] at ih
      simp [find?, hs, ih]

end Row

/-! ### Keyed tables -/

namespace Tables

/-- Every row of the table of storages has a text as its id, and no two have one id. -/
structure IsKeyed (t : Tables) : Prop where
  ids : ∀ row ∈ t.storages, ∃ id : String, row.get? "id" = .ofText id
  nodup : (t.storages.map (Row.get? "id")).Nodup

variable {t : Tables} {row : Row}

theorem mem_of_find? {id : Cell} (h : t.find? id = some row) : row ∈ t.storages :=
  List.mem_of_find?_eq_some h

theorem hasId_of_find? {id : Cell} (h : t.find? id = some row) : row.hasId id = true :=
  List.find?_some h

theorem get?_id_of_find? {id : Cell} (h : t.find? id = some row) : row.get? "id" = id :=
  (Row.hasId_iff.1 (hasId_of_find? h)).1

/-- The storage of an id has this id. -/
theorem id_of_find? {id : Cell} {s : Storage} (hf : t.find? id = some row)
    (hs : Storage.ofRow row = .ok s) : s.id = id := by
  obtain ⟨hcolumn, -, -⟩ := Storage.columns_of_ofRow hs
  exact hcolumn.trans (get?_id_of_find? hf)

/-- Two rows of one id are the same row. -/
theorem IsKeyed.eq_of_id (h : t.IsKeyed) {other : Row} (hrow : row ∈ t.storages)
    (hother : other ∈ t.storages) (hid : other.get? "id" = row.get? "id") : other = row :=
  List.inj_on_of_nodup_map h.nodup hother hrow hid

/-- A row is found under its id. -/
theorem IsKeyed.find? (h : t.IsKeyed) (hrow : row ∈ t.storages) {id : String}
    (hid : row.get? "id" = .ofText id) : t.find? (.ofText id) = some row := by
  cases hf : t.find? (.ofText id) with
  | none =>
    have hn := List.find?_eq_none.1 hf row hrow
    exact absurd (Cell.same_ofText.2 hid) hn
  | some other => rw [h.eq_of_id hrow (mem_of_find? hf) ((get?_id_of_find? hf).trans hid.symm)]

/-- A table in which the storages are the same is keyed too. -/
theorem IsKeyed.of_storages {u : Tables} (h : t.IsKeyed) (hs : u.storages = t.storages) :
    u.IsKeyed := by
  obtain ⟨hi, hn⟩ := h
  exact ⟨hs ▸ hi, hs ▸ hn⟩

/-- A table of which only some rows are left is keyed too. -/
theorem IsKeyed.filter (h : t.IsKeyed) (keep : Row → Bool) :
    IsKeyed { t with storages := t.storages.filter keep } :=
  ⟨fun row hrow => h.ids row (List.mem_of_mem_filter hrow),
    h.nodup.sublist ((List.filter_sublist ..).map _)⟩

/-- Where only some rows are left, what is found is what was found before, if it is left. -/
theorem IsKeyed.find?_filter (h : t.IsKeyed) (keep : Row → Bool) (id : Cell) :
    Tables.find? id { t with storages := t.storages.filter keep } = (t.find? id).filter keep := by
  cases hf : t.find? id with
  | none =>
    refine List.find?_eq_none.2 fun row hrow => ?_
    exact List.find?_eq_none.1 hf row (List.mem_of_mem_filter hrow)
  | some row =>
    obtain ⟨text, htext⟩ := h.ids row (mem_of_find? hf)
    obtain rfl : id = .ofText text := (get?_id_of_find? hf).symm.trans htext
    cases hkeep : keep row with
    | true =>
      rw [Option.filter_some_pos hkeep]
      exact (h.filter keep).find? (List.mem_filter.2 ⟨mem_of_find? hf, hkeep⟩) htext
    | false =>
      rw [Option.filter_some_neg (by simp [hkeep])]
      refine List.find?_eq_none.2 fun other hother hid => ?_
      obtain ⟨hother, hk⟩ := List.mem_filter.1 hother
      have hsame := (Row.hasId_iff.1 hid).1.trans htext.symm
      rw [h.eq_of_id (mem_of_find? hf) hother hsame, hkeep] at hk
      cases hk

/-- **Saving a row with an id keeps the table keyed.** -/
theorem IsKeyed.save (h : t.IsKeyed) {id : String} (hid : row.get? "id" = .ofText id) :
    (t.save row).IsKeyed := by
  rw [Tables.save]
  rcases Row.put_cases row t.storages with ⟨hnone, hput⟩ | ⟨before, s, after, hs, hsid, -, hput⟩ <;>
    rw [hput]
  · refine ⟨fun other hother => ?_, ?_⟩
    · rcases List.mem_append.1 hother with hother | hother
      · exact h.ids other hother
      · obtain rfl := List.mem_singleton.1 hother
        exact ⟨id, hid⟩
    rw [List.map_append, List.nodup_append]
    refine ⟨h.nodup, by simp, ?_⟩
    rintro _ hc _ hd rfl
    obtain ⟨other, hother, hc⟩ := List.mem_map.1 hc
    obtain rfl := List.mem_singleton.1 hd
    -- the id of the new row would be the id of a row that is there
    have hsame : other.hasId (row.get? "id") = true := by
      rw [hid] at hc ⊢
      exact Cell.same_ofText.2 hc
    rw [hnone other hother] at hsame
    cases hsame
  · have hkept : (s.update row).get? "id" = s.get? "id" := by
      rw [(Row.hasId_iff.1 hsid).1, hid]
      exact Row.get?_update_of_some hid s
    have hids : (before ++ s.update row :: after).map (Row.get? "id") =
        t.storages.map (Row.get? "id") := by
      rw [hs, List.map_append, List.map_append, List.map_cons, List.map_cons, hkept]
    refine ⟨fun other hother => ?_, hids ▸ h.nodup⟩
    obtain ⟨old, hold, hsame⟩ := List.mem_map.1 (hids ▸ List.mem_map_of_mem hother)
    obtain ⟨text, htext⟩ := h.ids old hold
    exact ⟨text, hsame.symm.trans htext⟩

end Tables

end Depository
