import Depository.Proofs.Service.Upkeep

/-!
# Stored records stay valid

Every row of every reachable table of storages has a name, a configuration in normal form, secrets
that are empty or marked, and a variant that the rules of its backend accept even as a new one.  An
update is only checked as an update, but it is merged with a stored variant that was sound, and that
makes it sound again (`Variant.IsSound.of_merge`); transfers and connection tests write back the
variant that they found.

* `Record.IsSound` — what lasts of every record (`Record.isSound_lasts`);
* `Reachable.isSound` — it holds of every reachable one;
* `Reachable.valid` — **every stored row is valid**, in terms of its columns (`Row.IsValid`).
-/

namespace Depository

/-! ### Sound records -/

/-- The record has a trimmed name that is not empty, and a variant that may stand in the table. -/
structure Record.IsSound (r : Record) : Prop where
  named : r.name ≠ ""
  trimmed : Text.trim r.name = r.name
  variant : r.variant.IsSound

/-- Every row of the table of storages holds a sound record. -/
def Tables.IsSound (t : Tables) : Prop :=
  ∀ row ∈ t.storages, ∃ r : Record, row.Holds r ∧ r.IsSound

/-- Records stay sound.  An update makes a sound record of a sound one, although it is only checked
as an update. -/
theorem Record.isSound_lasts : Record.Lasts Environment.IsQuiet Submission.IsParsed IsSound where
  quiet _ hq := hq
  normal _ hr := hr.variant.normal
  moved _ hr _ _ := ⟨hr.named, hr.trimmed, hr.variant⟩
  created _ hs hname hvalid _ _ _ _ _ _ _ hprotected :=
    ⟨hname, Text.trim_trim _, .of_protects hs.isNormal hvalid hprotected⟩
  updated _ hs hname _ hold hvalid _ _ _ hprotected :=
    -- it was checked as an update only, but what it is merged into was sound
    ⟨hname, Text.trim_trim _, hold.variant.of_merge hs.isNormal hvalid hprotected⟩

/-- **Every stored record is sound**, whatever else goes on. -/
theorem Reachable.isSound {t : Tables} {pool : List (Operation Unit)} (h : Reachable t pool) :
    t.IsSound := ReachableBy.all Record.isSound_lasts h

/-! ### What is promised of every row -/

/-- The configuration that is stored of a variant is valid: it is read as the variant, the rules of
the backend accept it even as a new one, every secret is empty or marked, and a port is one. -/
structure Variant.IsStored (v : Variant) : Prop where
  reread : Variant.parseNamed v.typeName (some v.payload) = .ok (some v)
  valid : v.validate true = .ok ()
  secrets : ∀ key ∈ v.backend.secretKeys, ∃ text, v.payload.get? key = some (.string text) ∧
    (text = "" ∨ Field.isMarked text = true)
  port : v.backend = .nas ∨ v.backend = .ftp ∨ v.backend = .sftp →
    ∃ port : Int, v.payload.get? "port" = some (.number (.integer port)) ∧
      1 ≤ port ∧ port ≤ 65535

theorem Variant.IsSound.isStored {v : Variant} (h : v.IsSound) : v.IsStored := by
  obtain ⟨b, c⟩ := v
  refine ⟨h.normal.parseNamed, h.valid, fun key hkey => ?_, fun hb => ?_⟩
  · rw [← Backend.map_key_secrets] at hkey
    obtain ⟨f, hf, rfl⟩ := List.mem_map.1 hkey
    exact ⟨f.get c, Backend.get?_secret hf c, h.stored f hf⟩
  · exact (Backend.validate_iff.1 h.valid).1.port hb

/-- The row has a trimmed name that is not empty, and holds a valid configuration of its backend. -/
structure Row.IsValid (row : Row) : Prop where
  name : ∃ name, row.get? "name" = .ofText name ∧ name ≠ "" ∧ Text.trim name = name
  variant : ∃ v : Variant, row.get? "type" = .ofText v.typeName ∧
    row.get? "config" = some v.payload ∧ v.IsStored

namespace Reachable

/-- **Every stored row is valid**, in all tables that are reached from the empty one by any
requests, one after another or side by side. -/
theorem valid {t : Tables} {pool : List (Operation Unit)} (h : Reachable t pool) :
    ∀ row ∈ t.storages, row.IsValid := by
  intro row hrow
  obtain ⟨r, hr, hrs⟩ := h.isSound row hrow
  exact ⟨⟨r.name, hr.name, hrs.named, hrs.trimmed⟩, r.variant, hr.type, hr.config,
    hrs.variant.isStored⟩

/-- The one row that is there after a storage was saved. -/
theorem valid_saveBackups :
    (∀ row ∈ Request.savedBackups.2.tables.storages, row.IsValid) ∧
      Request.savedBackups.2.tables.storages.length = 1 := by
  have hcall : Reachable (World.start ⟨[], [], [], []⟩).tables ([] ++ _ :: []) :=
    .call false Request.saveBackups Request.isParsed_saveBackups (.start rfl)
  have hquiet := Environment.isQuiet_undisturbed "key" (fun _ => "a") fun _ => List.replicate 12 0
  exact ⟨valid (hcall.run _ (.start ⟨[], [], [], []⟩) hquiet), by decide +kernel⟩

end Reachable

end Depository
