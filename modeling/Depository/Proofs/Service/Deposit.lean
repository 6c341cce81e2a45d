import Depository.Proofs.Service.Save
import Depository.Proofs.Service.Trial

/-!
# What saving puts into any tables

A submission is saved under an id of its own or, if it has none, under a fresh one.  What is put
into the table under that id is what was submitted, or what that makes of the variant which is
stored there, with its secrets encrypted for the id.  That holds whatever the other rows are like
and whether the submission is in normal form or not.

* `Tables.Stores` — a variant can be read from the row of an id;
* `Service.Deposited` — the tables with the storage of an id put in;
* `Service.save_deposits` — **what saving puts into the table**.
-/

namespace Depository

/-! ### Stored variants -/

namespace Tables

/-- The row of the id can be read, and says that a storage of the workspace is of this variant. -/
def Stores (id workspaceId : Cell) (v : Variant) (t : Tables) : Prop :=
  ∃ row s, t.find? id = some row ∧ Storage.ofRow row = .ok s ∧ s.workspaceId = workspaceId ∧
    s.variant = some v

variable {t : Tables} {id workspaceId : Cell} {v v' : Variant}

/-- Of one id there is one variant. -/
theorem Stores.unique (h : t.Stores id workspaceId v) (h' : t.Stores id workspaceId v') :
    v = v' := by
  obtain ⟨row, s, hf, hs, -, hv⟩ := h
  obtain ⟨row', s', hf', hs', -, hv'⟩ := h'
  obtain rfl := Option.some.inj (hf.symm.trans hf')
  obtain rfl := Except.ok.inj (hs.symm.trans hs')
  exact Option.some.inj (hv.symm.trans hv')

/-- **The variant of a storage that is put into the table is stored**, with its texts trimmed. -/
theorem stores_save {s : Storage} {row : Row} {id workspaceId : String} (hrow : s.toRow = .ok row)
    (hid : s.id = .ofText id) (hworkspace : s.workspaceId = .ofText workspaceId)
    (hv : s.variant = some v) (t : Tables) :
    (t.save row).Stores (.ofText id) (.ofText workspaceId)
      ⟨v.backend, v.backend.trim v.config⟩ := by
  obtain ⟨v', hv', hcolumns⟩ := Storage.exists_variant_of_toRow hrow
  obtain rfl := Option.some.inj (hv.symm.trans hv')
  have hhas : row.hasId (.ofText id) = true :=
    Cell.same_ofText.2 ((Storage.get?_id_of_toRow hrow).trans hid)
  let put : Row := (t.find? (.ofText id)).elim row (·.update row)
  have hfound : (t.save row).find? (.ofText id) = some put :=
    (find?_save hhas t _).trans (if_pos (Cell.same_ofText.2 rfl))
  -- whether it is put over a row or at the end, each cell with a value is there
  have hput : ∀ column : String, ∀ value : Json, row.get? column = some value →
      put.get? column = some value := by
    intro column value h
    show ((t.find? (.ofText id)).elim row (·.update row)).get? column = some value
    cases t.find? (.ofText id) with
    | none => exact h
    | some old => exact Row.get?_update_of_some h old
  have htype : put.get? "type" = .ofText v.typeName := hput _ _ (by rw [hcolumns]; rfl)
  have hconfig : put.get? "config" = some v.payload := hput _ _ (by rw [hcolumns]; rfl)
  have howner : put.get? "workspaceId" = .ofText workspaceId :=
    hput _ _ (by rw [hcolumns]; exact hworkspace)
  have hparse : Variant.parseNamed ((put.text? "type").getD "") (put.get? "config") =
      .ok (some ⟨v.backend, v.backend.trim v.config⟩) := by
    rw [Row.text?, htype, hconfig]
    exact v.parseNamed_payload
  exact ⟨_, _, hfound, Storage.ofRow_of_parse hparse, howner, rfl⟩

/-- A row that is there after another one was put into the table was there before, or it is what is
found under the id of that one. -/
theorem mem_or_find?_of_save {row other : Row} {id : Cell} (h : row.hasId id = true)
    (hmem : other ∈ (t.save row).storages) :
    other ∈ t.storages ∨ (t.save row).find? id = some other := by
  have hfound : (t.save row).find? id = some ((t.find? id).elim row (·.update row)) :=
    (find?_save h t id).trans (if_pos (by rwa [← Row.hasId_unique h]))
  have hid : row.get? "id" = id := (Row.hasId_iff.1 h).1
  rw [Tables.save] at hmem
  rcases Row.put_cases row t.storages with
      ⟨hnone, hput⟩ | ⟨before, s, after, hs, -, hfind, hput⟩ <;>
    rw [hput] at hmem
  · rcases List.mem_append.1 hmem with hmem | hmem
    · exact .inl hmem
    · obtain rfl := List.mem_singleton.1 hmem
      have hf : t.find? id = none := by
        refine List.find?_eq_none.2 fun r hr => ?_
        simp [← hid, hnone r hr]
      exact .inr (by rw [hfound, hf]; rfl)
  · rw [hs]
    rcases List.mem_append.1 hmem with hmem | hmem
    · exact .inl (List.mem_append_left _ hmem)
    · rcases List.mem_cons.1 hmem with rfl | hmem
      · have hf : t.find? id = some s := by rwa [hid] at hfind
        exact .inr (by rw [hfound, hf]; rfl)
      · exact .inl (List.mem_append_right _ (List.mem_cons_of_mem _ hmem))

end Tables

namespace Service

open Operation

variable {env : Environment} {t : Tables} {n : Nat}

/-- The tables with the storage of an id put in, which is of the variant `v` with its secrets
encrypted for it. -/
structure Deposited (env : Environment) (id workspaceId : String) (v : Variant) (t after : Tables) :
    Prop where
  stored : ∃ stored, v.Protects env.settings.encryptionKey (.ofText id) env.nonce stored ∧
    after.Stores (.ofText id) (.ofText workspaceId)
      ⟨stored.backend, stored.backend.trim stored.config⟩
  others : ∀ row ∈ after.storages, row ∈ t.storages ∨ after.find? (.ofText id) = some row
  memberships : after.memberships = t.memberships

/-- A storage with encrypted secrets is put into the table, and what is told of it then changes no
other one. -/
theorem store_deposits {α : Type} (s : Storage) {id workspaceId : String} {v stored : Variant}
    (hid : s.id = .ofText id) (hworkspace : s.workspaceId = .ofText workspaceId)
    (hv : s.variant = some stored)
    (hp : v.Protects env.settings.encryptionKey (.ofText id) env.nonce stored)
    {f : Storage → Operation α} (hf : ∀ saved, (f saved).Asks Instruction.IsReport) :
    (store s >>= f).Ends env t n (fun _ _ => True)
      (fun _ w => Deposited env id workspaceId v t w.tables) := by
  refine Ends.bind (Ends.mono (store_puts s hid) (fun _ _ _ => trivial) fun _ _ hw => hw) ?_
  rintro saved w ⟨row, hrow, hw, -⟩
  have hhas : row.hasId (.ofText id) = true :=
    Cell.same_ofText.2 ((Storage.get?_id_of_toRow hrow).trans hid)
  refine Ends.mono (Asks.ends_reports (hf saved)) (fun _ _ _ => trivial) ?_
  rintro _ w' ⟨audit, hw'⟩
  rw [hw', hw.tables]
  exact ⟨⟨stored, hp, Tables.stores_save hrow hid hworkspace hv t⟩,
    fun _ => Tables.mem_or_find?_of_save hhas, rfl⟩

/-- What is told of a saved storage. -/
theorem report_asks (line : String → String → String → LogLine) (words : String) (actor : Actor)
    (workspaceId : Cell) (saved : Storage) :
    (do
      let known ← lift saved.knownVariant
      log (line known.typeName (← told saved.id) (← told workspaceId))
      recordAudit actor workspaceId (words ++ (← told saved.name))
      return saved).Asks Instruction.IsReport := by
  refine Asks.bind (asks_lift _) fun known => ?_
  refine Asks.bind (asks_told _) fun _ => Asks.bind (asks_told _) fun _ => ?_
  refine Asks.bind (asks_request trivial) fun _ => Asks.bind (asks_told _) fun _ => ?_
  exact Asks.bind (recordAudit_asks (fun _ => trivial) (fun _ => trivial) _ _ _) fun _ =>
    asks_pure saved

/-- **A creation deposits what was submitted.** -/
theorem create_deposits (actor : Actor) (workspaceId : String) (s : Submission) :
    (create actor (.ofText workspaceId) s.toInput).Ends env t n (fun _ _ => True)
      (fun _ w => Deposited env (env.freshId n) workspaceId s.variant t w.tables) := by
  refine Ends.bind (S := fun id w => id = env.freshId n ∧ w.tables = t) ?_ ?_
  · refine ends_request (fun _ _ _ hasks _ _ => nomatch hasks) fun w hw => ?_
    exact ⟨congrArg env.freshId hw.ids, hw.tables⟩
  rintro _ w ⟨rfl, rfl⟩
  refine Reads.bind (reads_lift _) (fun _ _ _ => trivial) ?_
  intro name _
  refine Reads.bind (reads_lift _) (fun _ _ _ => trivial) ?_
  intro submitted hsubmitted
  obtain rfl := Except.ok.inj hsubmitted
  refine Reads.bind (reads_lift _) (fun _ _ _ => trivial) ?_
  intro _ _
  refine Reads.bind (protect_reads _ _) (fun _ _ _ => trivial) ?_
  intro stored hprotected
  exact store_deposits _ rfl rfl rfl hprotected
    (report_asks LogLine.created "Storage created: " actor (.ofText workspaceId))

/-- **An update deposits what it makes of the stored variant.** -/
theorem update_deposits (actor : Actor) (workspaceId id : String) (s : Submission) :
    (update actor (.ofText workspaceId) (.ofText id) s.toInput).Ends env t n (fun _ _ => True)
      (fun _ w => ∃ current, t.Stores (.ofText id) (.ofText workspaceId) current ∧
        Deposited env id workspaceId (current.merge s.variant).variant t w.tables) := by
  refine Reads.bind (get_loads _) (fun _ _ _ => trivial) ?_
  rintro old ⟨row, hfound, hread⟩
  refine Reads.bind (reads_require _ _) (fun _ _ _ => trivial) ?_
  intro _ howned
  have hworkspace : old.workspaceId = .ofText workspaceId := Cell.same_ofText.1 howned
  have hid : old.id = .ofText id := Tables.id_of_find? hfound hread
  refine Reads.bind (reads_require _ _) (fun _ _ _ => trivial) ?_
  intro _ _
  refine Reads.bind (reads_lift _) (fun _ _ _ => trivial) ?_
  intro current hcurrent
  refine Reads.bind (reads_lift _) (fun _ _ _ => trivial) ?_
  intro submitted hsubmitted
  obtain rfl := Except.ok.inj hsubmitted
  refine Reads.bind (reads_lift _) (fun _ _ _ => trivial) ?_
  intro _ _
  refine Reads.bind (protect_reads _ _) (fun _ _ _ => trivial) ?_
  intro stored hprotected
  refine Reads.bind (reads_lift _) (fun _ _ _ => trivial) ?_
  intro name _
  rw [hid] at hprotected
  let new : Storage :=
    { old with name := .ofText name, isSystem := s.toInput.isSystem, variant := some stored }
  refine Ends.mono (store_deposits new hid hworkspace rfl hprotected
    (report_asks LogLine.updated "Storage updated: " actor (.ofText workspaceId)))
    (fun _ _ _ => trivial) fun _ w hw => ?_
  exact ⟨current, ⟨row, old, hfound, hread, hworkspace, Storage.knownVariant_eq_ok.1 hcurrent⟩, hw⟩

/-- **What saving puts into the table**: under a fresh id what was submitted, or under the id of
the submission what it makes of the variant that is stored there. -/
theorem save_deposits (cloudMode : Bool) (actor : Actor) (workspaceId : String) (s : Submission) :
    (save cloudMode actor (.ofText workspaceId) s.toInput).Ends env t n (fun _ _ => True)
      (fun _ w =>
        (s.id = none ∨ s.id = some "") ∧
            Deposited env (env.freshId n) workspaceId s.variant t w.tables ∨
          ∃ id current, s.id = some id ∧ id ≠ "" ∧
            t.Stores (.ofText id) (.ofText workspaceId) current ∧
            Deposited env id workspaceId (current.merge s.variant).variant t w.tables) := by
  refine Reads.bind (requireManage_reads _ actor _) (fun _ _ _ => trivial) fun _ _ => ?_
  refine Reads.bind (requireLocal_reads cloudMode actor s.variant) (fun _ _ _ => trivial)
    fun _ _ => ?_
  refine Reads.bind (requireSystem_reads actor s.isSystem) (fun _ _ _ => trivial) fun _ _ => ?_
  refine Reads.bind (reads_lift _) (fun _ _ _ => trivial) fun name _ => ?_
  refine Reads.bind (reads_require _ _) (fun _ _ _ => trivial) fun _ _ => ?_
  rw [createOrUpdate]
  rcases s.id_cases with ⟨hnew, hfalsy⟩ | ⟨id, hid, hne, htruthy⟩
  · rw [if_neg (by simp [hfalsy])]
    refine Ends.bind (create_deposits actor workspaceId s) fun saved w hw => ?_
    refine Ends.mono (reads_lift _) (fun _ _ _ => trivial) ?_
    rintro _ w' ⟨hw', -⟩
    rw [hw'.tables]
    exact .inl ⟨hnew, hw⟩
  · rw [if_pos htruthy, Submission.id_toInput hid]
    refine Ends.bind (update_deposits actor workspaceId id s) fun saved w hw => ?_
    refine Ends.mono (reads_lift _) (fun _ _ _ => trivial) ?_
    rintro _ w' ⟨hw', -⟩
    obtain ⟨current, hcurrent, hdeposited⟩ := hw
    rw [hw'.tables]
    exact .inr ⟨id, current, hid, hne, hcurrent, hdeposited⟩

end Service

end Depository
