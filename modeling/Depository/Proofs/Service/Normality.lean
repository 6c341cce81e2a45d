import Depository.Proofs.Service.Validity

/-!
# Reachable tables are normal

Nothing but its id tells a row from the others, so no two rows may have one id.  None ever have,
whoever draws which ids and whatever goes on side by side: a row that is saved under an id that is
there goes over the row of it.  Together with what is kept of the rows themselves
(`Reachable.isSound`) this makes every reachable table normal (`Reachable.isNormal`).
-/

namespace Depository

namespace Tables

variable {t : Tables}

theorem IsSound.exists_id (h : t.IsSound) {row : Row} (hrow : row ∈ t.storages) :
    ∃ id : String, row.get? "id" = .ofText id := by
  obtain ⟨r, hr, -⟩ := h row hrow
  exact ⟨r.id, hr.id⟩

/-- A keyed table that is sound after a row was saved is keyed after it. -/
theorem IsKeyed.save_of_isSound (h : t.IsKeyed) {row : Row} (hs : (t.save row).IsSound) :
    (t.save row).IsKeyed := by
  have hid : ∃ id : String, row.get? "id" = .ofText id := by
    rcases Row.put_cases row t.storages with ⟨-, hput⟩ | ⟨before, s, after, hrows, hsid, -, -⟩
    · exact hs.exists_id (by rw [Tables.save, hput]; simp)
    · -- the row goes over one of the same id
      obtain ⟨id, hid⟩ := h.ids s (by rw [hrows]; simp)
      exact ⟨id, (Row.hasId_iff.1 hsid).1.symm.trans hid⟩
  obtain ⟨id, hid⟩ := hid
  exact h.save hid

/-- An instruction after which the table of storages is sound keeps it keyed. -/
theorem IsKeyed.perform {env : Environment} (hq : env.IsQuiet) {w : World} {i : Instruction}
    (h : w.tables.IsKeyed) (hs : (env.perform w i).2.tables.IsSound) :
    (env.perform w i).2.tables.IsKeyed := by
  rw [Environment.perform] at hs ⊢
  cases hfault : env.faultOf w i with
  | some message => exact h
  | none =>
    rw [hfault] at hs
    dsimp only at hs ⊢
    cases i with
    | saveStorage row =>
      have hsaved : (env.answer { w with instructions := w.instructions + 1 }
          (.saveStorage row)).2.tables = w.tables.save (env.identify row _).1 :=
        congrArg (Tables.save _) (env.tables_identify row _)
      rw [hsaved] at hs ⊢
      exact h.save_of_isSound hs
    | deleteStorage id => exact h.filter _
    | findStorage | listStorages | findRole | findDatabases | saveAudit | drawId | protect
    | probe | log => exact h.of_storages (Service.storages_answer hq _ (by simp) (by simp))

end Tables

namespace Reachable

variable {t : Tables} {pool : List (Operation Unit)}

/-- In reachable tables no two rows have one id. -/
theorem isKeyed (h : Reachable t pool) : t.IsKeyed := by
  induction h with
  | start hs => exact ⟨by simp [hs], by simp [hs]⟩
  | call _ _ _ _ ih => exact ih
  | advance env w hq hbefore ih => exact ih.perform hq (isSound (.advance env w hq hbefore))
  | others hs _ ih => exact ih.of_storages hs

/-- **Every reachable table is normal.** -/
theorem isNormal (h : Reachable t pool) : t.IsNormal := by
  refine ⟨fun row hrow => ?_, h.isKeyed.nodup⟩
  obtain ⟨r, hr, -⟩ := h.isSound row hrow
  exact ⟨r, hr⟩

end Reachable

end Depository
