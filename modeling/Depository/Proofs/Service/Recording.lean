import Depository.Proofs.Service.Test

/-!
# Recording the outcome of a connection test

While the connection of a stored storage is tested others may change the tables.  The outcome of the
test is recorded in what is there when it is over: one column of the row of the id is written
(`Tables.recordTest`), and whatever else was changed meanwhile stays changed.

* `Tables.save_eq_recordTest` — a record that is stored with another outcome changes that column
  only;
* `Service.recordOutcome_records` — the outcome is recorded, or a question to a table failed;
* `Service.failsOfTable_recordOutcome` — whatever the tables are like, recording fails for the sake
  of a table only;
* `Service.testStored_keeps_edits` — **a connection test never overwrites an edit**.
-/

namespace Depository

/-- The message of the failure that a connection test came to, if it failed. -/
def Probe.Report.error? (report : Probe.Report) : Option String :=
  match report.outcome with
  | .ok _ => none
  | .error e => some e.message

/-! ### The outcome in its row -/

namespace Row

variable {row : Row} {r : Record}

/-- The row with this outcome of a connection test. -/
def tested (error : Option String) (row : Row) : Row :=
  row.update ⟨[("lastSaveError", Storage.testOutcome error)]⟩

/-- **A record that is put over its row with another outcome changes that column only.** -/
theorem Holds.update_outcome (h : row.Holds r) (error : Option String) :
    row.update { r with lastSaveError := error }.toRow = row.tested error := by
  let new : Record := { r with lastSaveError := error }
  have hnew : new.toRow.columns = r.toRow.columns.take 5 ++
      ("lastSaveError", Storage.testOutcome error) :: [("config", some r.variant.payload)] := rfl
  exact h.update_cell hnew (by simp [Record.toRow]) (by simp [Record.toRow])

end Row

namespace Tables

variable {t : Tables} {row : Row} {r : Record}

/-- The tables with this outcome of a connection test in the row of an id, and with nothing else
changed. -/
def recordTest (id : Cell) (error : Option String) (t : Tables) : Tables :=
  { t with storages := Row.changeFirst id (Row.tested error) t.storages }

/-- There is no row to record anything in. -/
theorem recordTest_of_none {id : Cell} (h : t.find? id = none) (error : Option String) :
    t.recordTest id error = t :=
  congrArg (fun storages => { t with storages }) (Row.changeFirst_of_none h)

/-- **A record that is stored with another outcome changes nothing but that.** -/
theorem save_eq_recordTest (hf : t.find? (.ofText r.id) = some row) (hr : row.Holds r)
    (error : Option String) :
    t.save { r with lastSaveError := error }.toRow = t.recordTest (.ofText r.id) error := by
  have hfound : t.find? (.ofText r.id) ≠ none := by simp [hf]
  let new : Record := { r with lastSaveError := error }
  have hput : Row.put new.toRow t.storages =
      Row.changeFirst (.ofText r.id) (·.update new.toRow) t.storages :=
    Row.put_eq_changeFirst hfound
  have hchange : Row.changeFirst (.ofText r.id)
      (·.update new.toRow) t.storages =
      Row.changeFirst (.ofText r.id) (Row.tested error) t.storages := by
    refine Row.changeFirst_congr fun s hs => ?_
    obtain rfl := Option.some.inj (hf.symm.trans hs)
    exact hr.update_outcome error
  exact congrArg (fun storages => { t with storages }) (hput.trans hchange)

end Tables

/-! ### Failures of tables -/

/-- A question to a table failed, or a row cannot be read or written. -/
def Failure.IsOfTable : Failure → Prop
  | .fault _ | .invalid _ | .malformed _ => True
  | _ => False

namespace Operation

variable {α β : Type} {o : Operation α} {f : α → Operation β}

/-- Wherever it runs, the operation fails for the sake of a table, if it fails. -/
def FailsOfTable (o : Operation α) : Prop := ∀ env w e, (o.run env w).1 = .error e → e.IsOfTable

theorem FailsOfTable.bind (h : o.FailsOfTable) (hf : ∀ a, (f a).FailsOfTable) :
    (o >>= f).FailsOfTable := by
  intro env w e he
  rw [run_bind] at he
  rcases ho : o.run env w with ⟨e' | a, w'⟩ <;> rw [ho] at he
  · obtain rfl := Except.error.inj he
    exact h env w e' (congrArg Prod.fst ho)
  · exact hf a env w' e he

end Operation

namespace Service

open Operation

variable {env : Environment} {t : Tables} {n : Nat}

/-! ### Recording -/

/-- A question to a table failed, and this is the failure. -/
def IsFault (env : Environment) (e : Failure) : Prop :=
  ∃ k i m, env.fault k i = some m ∧ e = .fault m

/-- In a normal table a storage is found unless the question fails. -/
theorem find?_finds (h : t.IsNormal) (id : Cell) :
    (find? id).Ends env t n (fun e w => IsFault env e ∧ w.At t n) fun found w =>
      w.At t n ∧ match found with
        | none => t.find? id = none
        | some s => ∃ row r, t.find? id = some row ∧ row.Holds r ∧ id = .ofText r.id ∧
            s = r.toStorage := by
  refine Ends.bind (S := fun row w => w.At t n ∧ row = t.find? id) ?_ ?_
  · refine ends_request (fun k m w _ hfault hw => ⟨⟨k, _, m, hfault, rfl⟩, hw⟩) fun w hw => ?_
    exact ⟨hw, congrArg (Tables.find? id) hw.tables⟩
  rintro _ w ⟨hw, rfl⟩
  rw [hw.tables, hw.ids]
  cases hf : t.find? id with
  | none => exact ends_pure fun w' hw' => ⟨hw', rfl⟩
  | some row =>
    obtain ⟨r, hr, hid⟩ := h.of_find? hf
    rw [loadOption_of_ofRow hr.ofRow]
    exact ends_pure fun w' hw' => ⟨hw', row, r, rfl, hr, hid, rfl⟩

/-- A record is stored unless the question fails. -/
theorem store_stores (r : Record) :
    (store r.toStorage).Ends env t n (fun e w => IsFault env e ∧ w.tables = t)
      (fun _ w => w.tables = t.save r.toRow) := by
  have hstore : store r.toStorage =
      request (.saveStorage r.toRow) >>= fun saved => lift (Storage.ofRow saved) := rfl
  rw [hstore]
  refine Ends.bind (S := fun row w => w.tables = t.save r.toRow ∧ row = r.toRow) ?_ ?_
  · refine ends_request (fun k m w _ hfault hw => ⟨⟨k, _, m, hfault, rfl⟩, hw.tables⟩) ?_
    exact fun w hw => ⟨congrArg (Tables.save r.toRow) hw.tables, rfl⟩
  · rintro _ w ⟨hw, rfl⟩
    rw [r.ofRow_toRow]
    exact ends_pure fun w' hw' => hw'.tables.trans hw

/-- **The outcome of a test is recorded in the row of the id as it is found**, unless a question to
the table fails. -/
theorem recordOutcome_records (h : t.IsNormal) (id : String) (error : Option String) :
    (recordOutcome (.ofText id) error).Ends env t n (fun e w => IsFault env e ∧ w.tables = t)
      (fun _ w => w.tables = t.recordTest (.ofText id) error) := by
  refine Ends.bind (Ends.mono (find?_finds h _) (fun _ _ hw => ⟨hw.1, hw.2.tables⟩)
    fun _ _ hw => hw) ?_
  rintro found w ⟨hw, hfound⟩
  rw [hw.tables, hw.ids]
  cases found with
  | none =>
    -- the storage is gone, and so is the place for the outcome
    exact ends_pure fun w' hw' => hw'.tables.trans (Tables.recordTest_of_none hfound error).symm
  | some s =>
    obtain ⟨row, r, hrow, hr, hid, rfl⟩ := hfound
    have hstore : ∀ error, (store { r with lastSaveError := error }.toStorage >>=
        fun _ => pure ()).Ends env t n (fun e w => IsFault env e ∧ w.tables = t)
        (fun _ w => w.tables = t.recordTest (.ofText id) error) := by
      intro error
      refine Ends.bind (store_stores _) fun _ w' hw' => ?_
      exact ends_pure fun w'' hw'' => by
        rw [hw''.tables, hw', Tables.save_eq_recordTest (hid ▸ hrow) hr, hid]
    dsimp only
    -- a failure with a text is told before it is recorded
    split
    · exact hstore none
    · exact hstore (some "")
    · rename_i text _
      rw [told_ofText, pure_bind]
      refine Ends.bind (Ends.mono (log_ends _) (fun _ _ h => h.elim) fun _ _ hw' => hw') ?_
      intro _ w' hw'
      rw [hw'.tables, hw'.ids]
      exact hstore (some text)

/-- What the test of a stored storage does once its checks are passed. -/
def testAndRecord (id : Cell) (s : Storage) : Operation Unit := do
  match ← attempt (probe s.id s.variant) with
  | .ok () => recordOutcome id none
  | .error e =>
    match ← attempt (recordOutcome id (some e.message)) with
    | .ok () => fail e
    | .error recordError =>
      log (LogLine.testNotRecorded (← told id) recordError.message)
      fail e

theorem testStored_eq (actor : Actor) (id : Cell) :
    testStored actor id = (do
      let s ← get id
      requireView s.workspaceId actor .test
      testAndRecord id s) := rfl

/-- The world when the connection test of a variant is over, with what others have done to the
tables meanwhile. -/
def probed (env : Environment) (owner : Cell) (v : Variant) (w : World) : World :=
  (env.perform w (.probe owner v)).2

/-- The outcome is recorded in the world in which the test is over, and a failure of the test is the
failure of the operation, whatever comes of recording it. -/
theorem run_testAndRecord (env : Environment) {s : Storage} {v : Variant} (hv : s.variant = some v)
    (id : String) (w : World) :
    let report := env.report s.id v w
    let recording := (recordOutcome (.ofText id) report.error?).run env (probed env s.id v w)
    let ended := (testAndRecord (.ofText id) s).run env w
    ended.1 = (report.outcome >>= fun _ => recording.1) ∧
      ended.2.tables = recording.2.tables := by
  intro report recording ended
  have hprobe : (attempt (probe s.id s.variant)).run env w =
      (.ok report.outcome, probed env s.id v w) := by
    rw [hv]
    exact run_attempt env _ w
  simp only [ended, recording, testAndRecord, run_bind, hprobe, Probe.Report.error?]
  cases report.outcome with
  | ok a => exact ⟨rfl, rfl⟩
  | error e =>
    simp only [run_bind, run_attempt]
    rcases (recordOutcome (.ofText id) (some e.message)).run env (probed env s.id v w) with
      ⟨e' | a, w'⟩ <;> exact ⟨rfl, rfl⟩

/-! ### Edits meanwhile -/

/-- A question that does not fail in the tables is answered. -/
theorem run_request {i : Instruction} {w : World} (h : env.fault w.instructions i = none) :
    (request i).run env w = env.answer { w with instructions := w.instructions + 1 } i := by
  have hfault : env.faultOf w i = none := by simp [Environment.faultOf, h]
  have hrun : (request i).run env w = env.perform w i := rfl
  rw [hrun, Environment.perform, hfault]

theorem run_get {id : Cell} {row : Row} {s : Storage} {w : World}
    (hf : w.tables.find? id = some row) (hs : Storage.ofRow row = .ok s)
    (h : env.fault w.instructions (.findStorage id) = none) :
    (get id).run env w = (.ok s, { w with instructions := w.instructions + 1 }) := by
  simp only [get, find?, run_bind, run_request h, Environment.answer, hf, loadOption_of_ofRow hs]
  rfl

theorem run_requireView {workspaceId : Cell} {actor : Actor} {w : World}
    (hview : mayView actor (w.tables.role workspaceId actor.id) = true)
    (h : env.fault w.instructions (.findRole workspaceId actor.id) = none)
    (reason : PermissionReason) :
    (requireView workspaceId actor reason).run env w =
      (.ok (), { w with instructions := w.instructions + 1 }) := by
  have haccess : (viewAccess workspaceId actor).run env w =
      (.ok ⟨true, w.tables.role workspaceId actor.id⟩,
        { w with instructions := w.instructions + 1 }) := by
    simp only [viewAccess, role, run_bind, run_request h, Environment.answer, ← hview]
    rfl
  simp only [requireView, run_bind, haccess]
  rfl

/-- Where the two questions before it are answered, an actor who may view the workspace comes to the
test of the connection. -/
theorem run_testStored {actor : Actor} {id : Cell} {row : Row} {s : Storage} {w : World}
    (hf : w.tables.find? id = some row) (hs : Storage.ofRow row = .ok s)
    (hview : mayView actor (w.tables.role s.workspaceId actor.id) = true)
    (hfind : env.fault w.instructions (.findStorage id) = none)
    (hrole : env.fault (w.instructions + 1) (.findRole s.workspaceId actor.id) = none) :
    (testStored actor id).run env w =
      (testAndRecord id s).run env { w with instructions := w.instructions + 2 } := by
  have hrequire := run_requireView (w := { w with instructions := w.instructions + 1 }) hview hrole
    .test
  simp only [testStored_eq, run_bind, run_get hf hs hfind, hrequire]

/-- **A connection test never overwrites an edit.**  An actor who may view the workspace of a stored
record tests it, and meanwhile others make of the tables what they like.  Unless recording fails the
tables are then the edited ones with the outcome of the test in the row, if it is still there, and
if recording fails, which takes a question that fails, they are the edited ones.  In each case the
failure of the test is the failure that the actor is told. -/
theorem testStored_keeps_edits {actor : Actor} {r : Record} {row : Row} {w : World}
    (hf : w.tables.find? (.ofText r.id) = some row) (hr : row.Holds r)
    (hview : mayView actor (w.tables.role (.ofText r.workspaceId) actor.id) = true)
    (hfind : env.fault w.instructions (.findStorage (.ofText r.id)) = none)
    (hrole : env.fault (w.instructions + 1) (.findRole (.ofText r.workspaceId) actor.id) = none)
    (hedited :
      (env.meanwhile (env.report (.ofText r.id) r.variant w) w.tables).IsNormal) :
    let report := env.report (.ofText r.id) r.variant w
    let edited := env.meanwhile report w.tables
    let recording := (recordOutcome (.ofText r.id) report.error?).run env
      (probed env (.ofText r.id) r.variant { w with instructions := w.instructions + 2 })
    let ended := (testStored actor (.ofText r.id)).run env w
    (recording.1 = .ok () → ended.2.tables = edited.recordTest (.ofText r.id) report.error?) ∧
      (∀ e, recording.1 = .error e → ended.2.tables = edited ∧ IsFault env e) ∧
      (edited.find? (.ofText r.id) = none → ended.2.tables = edited) ∧
      (report.outcome = .ok () → ended.1 = recording.1) ∧
      ∀ e, report.outcome = .error e → ended.1 = .error e := by
  intro report edited recording ended
  let passed : World := { w with instructions := w.instructions + 2 }
  have hended : ended = (testAndRecord (.ofText r.id) r.toStorage).run env passed :=
    run_testStored hf hr.ofRow hview hfind hrole
  -- the test finds the world as it was, but for the two questions that were asked
  have hreport : env.report r.toStorage.id r.variant passed = report := rfl
  obtain ⟨houtcome, htables⟩ :=
    run_testAndRecord env (rfl : r.toStorage.variant = some r.variant) r.id passed
  rw [← hended, hreport] at houtcome htables
  let finished : World := probed env (.ofText r.id) r.variant passed
  have hends : (recordOutcome (.ofText r.id) report.error?).Ends env finished.tables
      finished.ids _ _ :=
    recordOutcome_records hedited r.id report.error?
  have hrecording := hends.run finished.at_self
  refine ⟨fun hok => ?_, fun e he => ?_, fun hgone => ?_, fun hok => ?_, fun e he => ?_⟩
  · rcases hrecording with ⟨_, _, hdone⟩ | ⟨e, he, _⟩
    · exact htables.trans hdone
    · cases hok.symm.trans he
  · rcases hrecording with ⟨_, hok, _⟩ | ⟨e', he', hfault, hkept⟩
    · cases he.symm.trans hok
    · obtain rfl := Except.error.inj (he.symm.trans he')
      exact ⟨htables.trans hkept, hfault⟩
  · rcases hrecording with ⟨_, _, hdone⟩ | ⟨_, _, _, hkept⟩
    · exact (htables.trans hdone).trans (Tables.recordTest_of_none hgone _)
    · exact htables.trans hkept
  · rw [houtcome, hok]
    rfl
  · rw [houtcome, he]
    rfl

/-- While a test that was given up before it started is over, another user renames the storage and
moves it to another workspace.  The outcome comes into the row as it is then. -/
theorem testStored_keeps_edits_renamed :
    let admin : Actor := ⟨.ofText "u", .admin⟩
    let disk : Record := ⟨"s", "w", "disk", false, none, ⟨.localDisk, {}⟩⟩
    let renamed : Record := { disk with workspaceId := "x", name := "archive" }
    let env : Environment :=
      { Environment.undisturbed "key" (fun _ => "a") fun _ => [] with
        cancelled := true
        meanwhile := fun _ t => t.save renamed.toRow }
    let w := World.start ⟨[disk.toRow], [], [], []⟩
    let ended := (testStored admin (.ofText "s")).run env w
    ∃ e, ended.1 = .error e ∧
      ended.2.tables.storages =
        [Record.toRow { renamed with lastSaveError := some e.message }] := by
  intro admin disk renamed env w ended
  have hdisk : disk.toRow.Holds disk := Row.holds_toRow rfl
  have h := @testStored_keeps_edits env admin disk disk.toRow w rfl hdisk rfl rfl rfl ?_
  · obtain ⟨htables, -, -, -, herror⟩ := h
    refine ⟨_, herror _ rfl, ?_⟩
    rw [htables rfl]
    rfl
  · have hnormal : disk.variant.IsNormal := rfl
    have htables : w.tables.IsNormal := Tables.isNormal_of_toRow hnormal rfl
    exact htables.save hnormal

end Service

end Depository
