import Depository.Proofs.Service.Save
import Depository.Service.Read
import Depository.Service.Test

/-!
# What testing connections and reading do

Whatever comes of the connection test of a stored storage, all that changes is what its row says of
the last test, and only an actor who may view its workspace gets that far
(`Service.testStored_ends`).  The test of a submitted storage and the reading operations change
nothing at all.
-/

namespace Depository

namespace Service

open Operation

variable {env : Environment} {t : Tables} {n : Nat}

/-! ### Testing stored storages -/

/-- The tables are as they were, or the outcome of a connection test was recorded in the row of the
id. -/
def Recorded (t : Tables) (id : String) (after : Tables) : Prop :=
  after = t ∨ ∃ row r error, t.find? (.ofText id) = some row ∧ row.Holds r ∧ r.id = id ∧
    after = t.save { r with lastSaveError := error }.toRow

/-- The tables are as they were, or one record was saved. -/
def SavedOne (t after : Tables) : Prop := after = t ∨ ∃ r : Record, after = t.save r.toRow

theorem recordOutcome_ends (h : t.IsLegible) (id : String) (error : Option String) :
    (recordOutcome (.ofText id) error).Ends env t n
      (fun _ w => SavedOne t w.tables ∧ (t.IsNormal → Recorded t id w.tables))
      (fun _ w => SavedOne t w.tables ∧ (t.IsNormal → Recorded t id w.tables)) := by
  have hsame : ∀ {w : World}, w.At t n →
      SavedOne t w.tables ∧ (t.IsNormal → Recorded t id w.tables) :=
    fun hw => ⟨.inl hw.tables, fun _ => .inl hw.tables⟩
  refine Reads.bind (find?_legible h _) (fun _ _ => hsame) ?_
  intro found hfound
  cases found with
  | none =>
    -- there is no row any more to record it in
    exact ends_pure fun w => hsame
  | some s =>
    obtain ⟨row, r, hrow, hr, hid, rfl⟩ := hfound
    have hideq : r.id = id := by simpa [Cell.ofText] using hid.symm
    have hstore : ∀ error, (store { r with lastSaveError := error }.toStorage >>=
        fun _ => pure ()).Ends env t n
        (fun _ w => SavedOne t w.tables ∧ (t.IsNormal → Recorded t id w.tables))
        (fun _ w => SavedOne t w.tables ∧ (t.IsNormal → Recorded t id w.tables)) := by
      intro error
      refine Ends.bind (Ends.mono (store_ends _) (fun _ _ => hsame) fun _ _ hw => hw) ?_
      rintro _ w ⟨hw, -⟩
      refine ends_pure fun w' hw' => ?_
      rw [hw'.tables, hw.tables]
      exact ⟨.inr ⟨_, rfl⟩, fun hnormal =>
        .inr ⟨row, r, error, hrow, hnormal.holds_of_readAs hrow hr, hideq, rfl⟩⟩
    dsimp only
    -- a failure with a text is told before it is recorded
    split
    · exact hstore none
    · exact hstore (some "")
    · rename_i text _
      rw [told_ofText, pure_bind]
      exact Reads.bind (log_reads _) (fun _ _ => hsame) fun _ _ => hstore (some text)

/-- What is recorded of a connection test, and by whom. -/
def Tested (actor : Actor) (t : Tables) (id : String) (after : Tables) : Prop :=
  after = t ∨ ∃ row r error, t.find? (.ofText id) = some row ∧ row.Holds r ∧ r.id = id ∧
    mayView actor (t.role (.ofText r.workspaceId) actor.id) = true ∧
    after = t.save { r with lastSaveError := error }.toRow

/-- **A connection test saves at most one record**, whether it fails or not, and in a normal table
only what the row says of the last test is changed. -/
theorem testStored_saves (h : t.IsLegible) (hq : env.IsQuiet) (actor : Actor) (id : String) :
    (testStored actor (.ofText id)).Ends env t n
      (fun _ w => SavedOne t w.tables ∧ (t.IsNormal → Tested actor t id w.tables))
      (fun _ w => SavedOne t w.tables ∧ (t.IsNormal → Tested actor t id w.tables)) := by
  have hsame : ∀ {w : World}, w.At t n →
      SavedOne t w.tables ∧ (t.IsNormal → Tested actor t id w.tables) :=
    fun hw => ⟨.inl hw.tables, fun _ => .inl hw.tables⟩
  refine Reads.bind (get_legible h _) (fun _ _ => hsame) ?_
  rintro _ ⟨row, r, hrow, hr, hid, rfl⟩
  refine Reads.bind (requireView_reads _ actor _) (fun _ _ => hsame) ?_
  intro _ hview
  -- the row is found once more to record the outcome, and it is the same row
  have hrecorded : ∀ {after}, SavedOne t after ∧ (t.IsNormal → Recorded t id after) →
      SavedOne t after ∧ (t.IsNormal → Tested actor t id after) := by
    refine fun ⟨hsaved, hrecorded⟩ => ⟨hsaved, fun hnormal => ?_⟩
    rcases hrecorded hnormal with rfl | ⟨row', r', error, hrow', hr', hid', rfl⟩
    · exact .inl rfl
    · obtain rfl := Option.some.inj (hrow.symm.trans hrow')
      obtain rfl := (hnormal.holds_of_readAs hrow hr).unique hr'
      exact .inr ⟨row, r, error, hrow', hr', hid', hview, rfl⟩
  refine Ends.bind (S := fun _ w => w.tables = t) ?_ ?_
  · exact (probe_ends hq (.ofText r.id) r.variant).attempt_same
  rintro (e | a) w hw <;> rw [hw]
  · -- the test failed, which is the failure of the operation
    refine Ends.bind (S := fun _ w =>
      SavedOne t w.tables ∧ (t.IsNormal → Recorded t id w.tables)) ?_ ?_
    · exact (recordOutcome_ends h id _).attempt_same
    · rintro (e' | a) w hw
      · dsimp only
        rw [told_ofText, pure_bind]
        refine Ends.bind (Ends.mono (log_ends _) (fun _ _ => False.elim) fun _ _ hw' => hw') ?_
        intro _ w' hw'
        exact ends_fail fun w'' hw'' =>
          hrecorded (by rw [hw''.tables, hw'.tables]; exact hw)
      · exact ends_fail fun w' hw' => hrecorded (by rw [hw'.tables]; exact hw)
  · exact Ends.mono (recordOutcome_ends h id none) (fun _ w => hrecorded) fun _ w => hrecorded

/-- **A connection test changes only what the row says of the last test**, whether it fails or
not. -/
theorem testStored_ends (h : t.IsNormal) (hq : env.IsQuiet) (actor : Actor) (id : String) :
    (testStored actor (.ofText id)).Ends env t n (fun _ w => Tested actor t id w.tables)
      (fun _ w => Tested actor t id w.tables) :=
  Ends.mono (testStored_saves h.isLegible hq actor id) (fun _ _ hw => hw.2 h) fun _ _ hw => hw.2 h

/-! ### Operations that change nothing -/

/-- **The test of a submitted storage changes nothing.** -/
theorem testSubmitted_ends (h : t.IsNormal) (hq : env.IsQuiet) (cloudMode : Bool) (actor : Actor)
    (s : Submission) :
    (testSubmitted cloudMode actor s.toInput).Ends env t n (fun _ w => w.tables = t)
      (fun _ w => w.tables = t) := by
  refine Reads.bind (requireView_reads _ actor _) (fun _ _ hw => hw.tables) ?_
  intro _ _
  refine Reads.bind (requireLocal_reads cloudMode actor s.variant) (fun _ _ hw => hw.tables) ?_
  intro _ _
  by_cases hid : s.toInput.id.isTruthy = true
  · rw [if_pos hid]
    refine Reads.bind (get_reads h _) (fun _ _ hw => hw.tables) ?_
    rintro _ ⟨row, r, -, -, -, rfl⟩
    refine Reads.bind (reads_require _ _) (fun _ _ hw => hw.tables) fun _ _ => ?_
    refine Reads.bind (requireManage_reads _ actor _) (fun _ _ hw => hw.tables) fun _ _ => ?_
    refine Reads.bind (requireSystem_reads actor r.isSystem) (fun _ _ hw => hw.tables)
      fun _ _ => ?_
    refine Reads.bind (reads_lift _) (fun _ _ hw => hw.tables) fun current _ => ?_
    refine Reads.bind (reads_lift _) (fun _ _ hw => hw.tables) fun submitted _ => ?_
    refine Reads.bind (reads_lift _) (fun _ _ hw => hw.tables) fun _ _ => ?_
    exact probe_ends hq _ _
  · rw [if_neg hid]
    refine Reads.bind (reads_lift _) (fun _ _ hw => hw.tables) fun v _ => ?_
    refine Reads.bind (reads_lift _) (fun _ _ hw => hw.tables) fun _ _ => ?_
    exact probe_ends hq _ _

/-- Reading a storage changes nothing. -/
theorem read_reads (h : t.IsNormal) (actor : Actor) (id : String) :
    (read actor (.ofText id)).Reads env t n fun _ => True := by
  refine Reads.andThen (get_reads h _) ?_
  rintro _ ⟨row, r, -, -, -, rfl⟩
  have hview : ∀ _ : PUnit, (view actor r.toStorage).Reads env t n fun _ => True := fun _ =>
    Reads.mono (reads_lift _) fun _ _ => trivial
  by_cases hshared : r.toStorage.isShared = true
  · simpa only [hshared, if_true] using hview ()
  · rw [if_neg hshared]
    exact Reads.andThen (requireView_reads _ actor _) fun _ _ => hview ()

/-- Reading the storages of a workspace changes nothing. -/
theorem readAll_reads (actor : Actor) (workspaceId : Cell) :
    (readAll actor workspaceId).Reads env t n fun _ => True := by
  refine Reads.andThen (requireView_reads _ actor _) fun _ _ => ?_
  refine Reads.andThen (list_reads _) fun storages _ => ?_
  exact Reads.mono (reads_lift _) fun _ _ => trivial

end Service

end Depository
