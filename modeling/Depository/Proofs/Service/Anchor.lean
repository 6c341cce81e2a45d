import Depository.Proofs.Service.Changes

/-!
# System storages are anchored

A storage that is made a system storage stays one, in its workspace, until a global administrator
deletes it, and only a global administrator makes one.  Every operation writes whole rows, so this
rests on what each of them checks of the row that it found before (`Request.program_changes`).

* `Chronicle` — the tables with the ids that storages ever had;
* `Chronicle.Step`, `Chronicle.Run` — requests that are run one after another;
* `Chronicle.Run.anchored` — **what happens to system storages in every run.**
-/

namespace Depository

/-- The tables, and the ids that storages have or had. -/
structure Chronicle where
  tables : Tables
  used : String → Prop

namespace Chronicle

/-- No storage had an id before. -/
def start (t : Tables) : Chronicle := ⟨t, fun id => (t.find? (.ofText id)).isSome = true⟩

/-- The tables have become others. -/
def extend (c : Chronicle) (t : Tables) : Chronicle :=
  ⟨t, fun id => c.used id ∨ (t.find? (.ofText id)).isSome = true⟩

/-- A request is run to its end, and if it is for a new storage, the storage gets an id that no
storage had. -/
def Step (c : Chronicle) (request : Request) (c' : Chronicle) : Prop :=
  ∃ (env : Environment) (cloudMode : Bool), env.IsQuiet ∧
    (request.IsCreation → ¬c.used (env.freshId 0)) ∧
    c' = c.extend ((request.program cloudMode).run env (.start c.tables)).2.tables

/-- Requests are run one after another, and in between other tables than that of the storages may
be changed. -/
inductive Run (c : Chronicle) : Chronicle → Prop where
  | refl : Run c c
  | step {d e : Chronicle} (request : Request) : Run c d → d.Step request e → Run c e
  | others {d : Chronicle} {t : Tables} : t.storages = d.tables.storages → Run c d →
    Run c { d with tables := t }

/-- Rows are keyed by their ids, and the ids are known. -/
structure IsSound (c : Chronicle) : Prop where
  keyed : c.tables.IsKeyed
  known : ∀ id row, c.tables.find? (.ofText id) = some row → c.used id

variable {c d : Chronicle} {request : Request} {id : String} {workspaceId : Cell}

theorem isSound_start {t : Tables} (h : t.IsKeyed) : (start t).IsSound :=
  ⟨h, fun _ row hrow => Option.isSome_iff_exists.2 ⟨row, hrow⟩⟩

/-- What a step changes. -/
theorem Step.changes (h : c.Step request d) (hc : c.IsSound) :
    ∃ fresh, (request.IsCreation → ¬c.used fresh) ∧ request.Changes fresh c.tables d.tables := by
  obtain ⟨env, cloudMode, hq, hfresh, rfl⟩ := h
  refine ⟨env.freshId 0, hfresh, ?_⟩
  have hnew : request.IsCreation → c.tables.find? (.ofText (env.freshId 0)) = none := by
    intro hcreation
    cases hfound : c.tables.find? (.ofText (env.freshId 0)) with
    | none => rfl
    | some row => exact absurd (hc.known _ row hfound) (hfresh hcreation)
  rcases (request.program_changes hc.keyed hq cloudMode hnew).run
    (w := .start c.tables) ⟨rfl, rfl⟩ with ⟨_, -, h⟩ | ⟨_, -, h⟩ <;> exact h

theorem Step.used (h : c.Step request d) (hid : c.used id) : d.used id := by
  obtain ⟨env, cloudMode, -, -, rfl⟩ := h
  exact .inl hid

theorem Step.isSound (h : c.Step request d) (hc : c.IsSound) : d.IsSound := by
  obtain ⟨fresh, -, hchanges⟩ := h.changes hc
  obtain ⟨env, cloudMode, -, -, rfl⟩ := h
  exact ⟨hchanges.isKeyed hc.keyed,
    fun _ row hrow => .inr (Option.isSome_iff_exists.2 ⟨row, hrow⟩)⟩

theorem Run.isSound (h : c.Run d) (hc : c.IsSound) : d.IsSound := by
  induction h with
  | refl => exact hc
  | step request _ hstep ih => exact hstep.isSound ih
  | others hs _ ih =>
    refine ⟨ih.keyed.of_storages hs, fun id row hrow => ih.known id row ?_⟩
    rw [← Tables.find?_of_storages hs, hrow]

/-- A system storage stays anchored to the end of a run, or it is gone and its id is not used
again. -/
theorem Run.stays (h : c.Run d) (hc : c.IsSound) (hs : c.tables.HasSystem id workspaceId) :
    d.used id ∧
      (d.tables.find? (.ofText id) = none ∨ d.tables.HasSystem id workspaceId) := by
  induction h with
  | refl =>
    obtain ⟨row, hrow, hsystem⟩ := hs
    exact ⟨hc.known _ row hrow, .inr ⟨row, hrow, hsystem⟩⟩
  | @step d e request hrun hstep ih =>
    obtain ⟨hused, hend⟩ := ih
    have hd := hrun.isSound hc
    obtain ⟨fresh, hfresh, hchanges⟩ := hstep.changes hd
    refine ⟨hstep.used hused, ?_⟩
    rcases hend with hgone | hsystem
    · -- a new storage of this id would have one that was used before
      cases hnew : e.tables.find? (.ofText id) with
      | none => exact .inl rfl
      | some row =>
        obtain ⟨hcreation, rfl⟩ := hchanges.isCreation hd.keyed hgone hnew
        exact absurd hused (hfresh hcreation)
    · rcases hchanges.of_system hd.keyed hsystem with hstill | ⟨hgone, -⟩
      · exact .inr hstill
      · exact .inl hgone
  | others hstorages _ ih =>
    obtain ⟨hused, hend⟩ := ih
    refine ⟨hused, ?_⟩
    simpa only [Tables.HasSystem, Tables.find?_of_storages hstorages] using hend

/-- **System storages are anchored.**  In every run from a keyed table, whoever asks for whatever: a
system storage is one of the same workspace ever after, unless it is gone; one is made only where a
global administrator saves a storage; and one is removed only where a global administrator deletes
it while no database backs up to it, so never with a workspace. -/
theorem Run.anchored {t : Tables} (hk : t.IsKeyed) (h : (start t).Run c) :
    (∀ d, c.Run d → ∀ id workspaceId, c.tables.HasSystem id workspaceId →
      d.tables.find? (.ofText id) = none ∨ d.tables.HasSystem id workspaceId) ∧
    (∀ request d, c.Step request d → ∀ id workspaceId, d.tables.HasSystem id workspaceId →
      (¬∃ workspaceId, c.tables.HasSystem id workspaceId) →
      ∃ actor workspaceId s, request = .save actor workspaceId s ∧
        actor.isGlobalAdmin = true) ∧
    (∀ request d, c.Step request d → ∀ id workspaceId, c.tables.HasSystem id workspaceId →
      d.tables.find? (.ofText id) = none →
      ∃ actor, request = .delete actor id ∧ actor.isGlobalAdmin = true ∧
        c.tables.databasesOf (.ofText id) = []) := by
  have hc := h.isSound (isSound_start hk)
  refine ⟨?stays, ?made, ?removed⟩
  case stays =>
    exact fun d hrun id workspaceId hs => (hrun.stays hc hs).2
  case made =>
    intro request d hstep id workspaceId hs hnot
    obtain ⟨fresh, -, hchanges⟩ := hstep.changes hc
    exact (hchanges.to_system hc.keyed hs).resolve_left hnot
  case removed =>
    intro request d hstep id workspaceId hs hgone
    obtain ⟨fresh, -, hchanges⟩ := hstep.changes hc
    rcases hchanges.of_system hc.keyed hs with ⟨row, hrow, -⟩ | ⟨-, hremoves⟩
    · rw [hgone] at hrow
      cases hrow
    · exact hremoves

/-- A global administrator makes a system storage on local disk; its workspace cannot be removed,
and it stays until he deletes it. -/
theorem Run.anchored_disk :
    let admin : Actor := ⟨.ofText "u", .admin⟩
    let disk : Submission := ⟨none, "w", "disk", true, ⟨.localDisk, {}⟩⟩
    let env := Environment.undisturbed "key" (fun _ => "a") fun _ => []
    let after (c : Chronicle) (request : Request) : Chronicle :=
      c.extend ((request.program true).run env (.start c.tables)).2.tables
    let made := after (start ⟨[], [], [], []⟩) (.save admin "w" disk)
    let kept := after made (.clear "w")
    made.tables.HasSystem "a" (.ofText "w") ∧ kept.tables.HasSystem "a" (.ofText "w") ∧
      (after kept (.delete admin "a")).tables.find? (.ofText "a") = none ∧
      kept.tables.databasesOf (.ofText "a") = [] := by
  intro admin disk env after made kept
  have hquiet : env.IsQuiet := Environment.isQuiet_undisturbed "key" (fun _ => "a") fun _ => []
  have hstep : ∀ (c : Chronicle) (request : Request), (request.IsCreation → ¬c.used "a") →
      c.Step request (after c request) :=
    fun c request hfresh => ⟨env, true, hquiet, hfresh, rfl⟩
  have hempty : Tables.IsKeyed ⟨[], [], [], []⟩ := ⟨by simp, by simp⟩
  have hmade : made.tables.HasSystem "a" (.ofText "w") := by decide +kernel
  have hthere : kept.tables.find? (.ofText "a") ≠ none := by
    rw [← Option.isSome_iff_ne_none]
    decide +kernel
  have hgone : (after kept (.delete admin "a")).tables.find? (.ofText "a") = none := by
    rw [← Option.isNone_iff_eq_none]
    decide +kernel
  have hrun : (start ⟨[], [], [], []⟩).Run made := .step _ .refl (hstep _ _ fun _ h => by cases h)
  have hclear : made.Step (.clear "w") kept := hstep made _ False.elim
  obtain ⟨hstays, -, -⟩ := Run.anchored hempty hrun
  have hkept := (hstays kept (.step _ .refl hclear) "a" _ hmade).resolve_left hthere
  obtain ⟨-, -, hremoved⟩ := Run.anchored hempty (.step _ hrun hclear)
  obtain ⟨_, -, -, hdetached⟩ :=
    hremoved _ _ (hstep kept (.delete admin "a") False.elim) "a" _ hkept hgone
  exact ⟨hmade, hkept, hgone, hdetached⟩

end Chronicle

end Depository
