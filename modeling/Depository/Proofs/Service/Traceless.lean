import Depository.Proofs.Probe.Outcome
import Depository.Proofs.Service.Recording
import Depository.Proofs.Service.Request

/-!
# Requests that fail leave no trace

Whichever questions to tables fail, a request to save, to delete or to transfer a storage that fails
leaves all tables as they were, and a request to read or to try out a storage always does.  The test
of a stored storage leaves its outcome in the row, but not if it is denied: then nothing was tested,
since a test itself fails for other reasons (`Probe.not_isDenial_of_test`).

* `Failure.IsDenial` — the actor may not do it, or there is no such storage;
* `Request.Leaves` — what a request may leave;
* `Request.leaves_no_trace` — **every request leaves no more than that**.
-/

namespace Depository

/-- The actor may not do what he asked for, or there is no storage of the id. -/
def Failure.IsDenial (e : Failure) : Prop := e.category = .permission ∨ e.category = .notFound

namespace Probe

/-- A connection test does not fail as operations do that are denied. -/
theorem not_isDenial_of_test {s : Settings} {directory : String} {owner : Cell} {v : Variant}
    {cancelled : Bool} {c : Circumstances} {e : Failure}
    (h : (test s directory owner v cancelled c).outcome = .error e) : ¬e.IsDenial := by
  rcases failure_of_test h with ⟨fault, -, rfl⟩ | ⟨b, text, rfl⟩ | rfl
  · rw [Failure.ofDecryption]
    split <;> simp [Failure.IsDenial, Failure.category, Failure.malformedCategory]
  · simp [Failure.IsDenial, Failure.category]
  · simp [Failure.IsDenial, Failure.category, Failure.malformedCategory]

end Probe

namespace Service

open Operation

variable {env : Environment} {t : Tables} {n : Nat}

/-- What is recorded of a test is recorded unless a question fails, and a failure of the test is no
denial. -/
theorem testAndRecord_ends (h : t.IsNormal) (hq : env.IsQuiet) (r : Record) :
    (testAndRecord (.ofText r.id) r.toStorage).Ends env t n
      (fun e w => w.tables = t ∨
        ¬e.IsDenial ∧ ∃ error, w.tables = t.recordTest (.ofText r.id) error)
      (fun _ w => ∃ error, w.tables = t.recordTest (.ofText r.id) error) := by
  rintro w ⟨rfl, rfl⟩
  let report := env.report r.toStorage.id r.variant w
  let finished : World := probed env r.toStorage.id r.variant w
  have hfinished : finished.tables = w.tables := hq report w.tables
  obtain ⟨houtcome, htables⟩ :=
    run_testAndRecord env (rfl : r.toStorage.variant = some r.variant) r.id w
  have hends : (recordOutcome (.ofText r.id) report.error?).Ends env w.tables finished.ids _ _ :=
    recordOutcome_records h r.id report.error?
  rcases hends.run (w := finished) ⟨hfinished, rfl⟩ with ⟨_, hok, hdone⟩ | ⟨_, herror, -, hkept⟩
  · rw [hok] at houtcome
    rcases hrun : (testAndRecord (.ofText r.id) r.toStorage).run env w with ⟨e | a, w'⟩ <;>
      rw [hrun] at houtcome htables
    · -- what was recorded is a failure of the test
      have hfailed : report.outcome = .error e := by
        cases hreport : report.outcome with
        | error e' =>
          rw [hreport] at houtcome
          exact houtcome.symm
        | ok a =>
          rw [hreport] at houtcome
          cases houtcome
      exact .inr ⟨Probe.not_isDenial_of_test hfailed, _, htables.trans hdone⟩
    · exact ⟨_, htables.trans hdone⟩
  · rw [herror] at houtcome
    rcases hrun : (testAndRecord (.ofText r.id) r.toStorage).run env w with ⟨e | a, w'⟩ <;>
      rw [hrun] at houtcome htables
    · exact .inl (htables.trans hkept)
    · cases hreport : report.outcome <;> rw [hreport] at houtcome <;> cases houtcome

/-- **The test of a stored storage leaves its outcome in the row, but nothing if it is denied.** -/
theorem testStored_leaves (h : t.IsNormal) (hq : env.IsQuiet) (actor : Actor) (id : String) :
    (testStored actor (.ofText id)).Ends env t n
      (fun e w => w.tables = t ∨ ¬e.IsDenial ∧ ∃ error, w.tables = t.recordTest (.ofText id) error)
      (fun _ w => ∃ error, w.tables = t.recordTest (.ofText id) error) := by
  rw [testStored_eq]
  refine Reads.bind (get_reads h _) (fun _ _ hw => .inl hw.tables) ?_
  rintro _ ⟨row, r, hrow, hr, hid, rfl⟩
  refine Reads.bind (requireView_reads _ actor _) (fun _ _ hw => .inl hw.tables) ?_
  intro _ _
  rw [hid]
  exact testAndRecord_ends h hq r

end Service

/-! ### Every request -/

namespace Request

variable {env : Environment} {w : World}

/-- What a request may leave of tables `t`: one that changes storages leaves all tables as they were
if it fails, one that reads or tries out always does, and the test of a stored storage leaves its
outcome in the row unless it is denied.  The storages of a workspace that is removed are deleted one
by one, so that some of them may be gone if this fails. -/
def Leaves (t : Tables) (outcome : Except Failure Unit) (after : Tables) : Request → Prop
  | save .. | delete .. | transfer .. => ∀ e, outcome = .error e → after = t
  | read .. | readAll .. | testSubmitted .. => after = t
  | test _ id =>
    (∀ e, outcome = .error e → e.IsDenial → after = t) ∧
      (after = t ∨ ∃ error, after = t.recordTest (.ofText id) error)
  | clear workspaceId =>
    ∀ e, outcome = .error e → after = t ∨ Service.PartlyVacated (.ofText workspaceId) t after

/-- **A request that fails leaves no trace**, whoever asks for it and whichever questions fail. -/
theorem leaves_no_trace (hn : w.tables.IsNormal) (hq : env.IsQuiet) (cloudMode : Bool)
    (request : Request) :
    let ended := (request.program cloudMode).run env w
    request.Leaves w.tables ended.1 ended.2.tables := by
  intro ended
  have hends := (program_ends hn hq cloudMode request).run w.at_self
  cases request with
  | save | delete | transfer =>
    rintro e he
    rcases hends with ⟨_, hok, -⟩ | ⟨_, -, hfailed⟩
    · cases he.symm.trans hok
    · exact hfailed
  | read | readAll | testSubmitted =>
    rcases hends with ⟨_, -, hdone⟩ | ⟨_, -, hfailed⟩
    · exact hdone
    · exact hfailed
  | test actor id =>
    rcases (Service.testStored_leaves hn hq actor id).run w.at_self with
      ⟨_, hok, hdone⟩ | ⟨e, he, hfailed⟩
    · exact ⟨fun e he => (nomatch he.symm.trans hok), .inr hdone⟩
    · refine ⟨fun e' he' hdenial => ?_, hfailed.imp_right And.right⟩
      obtain rfl := Except.error.inj (he'.symm.trans he)
      exact hfailed.resolve_right fun h => h.1 hdenial
  | clear workspaceId =>
    rintro e he
    rcases hends with ⟨_, hok, -⟩ | ⟨_, -, hfailed⟩
    · cases he.symm.trans hok
    · exact hfailed.imp_right And.right

/-- A transfer that passes all checks, but then the storage is not saved. -/
theorem leaves_no_trace_transfer :
    let admin : Actor := ⟨.ofText "u", .admin⟩
    let disk : Record := ⟨"s", "w", "disk", false, none, ⟨.localDisk, {}⟩⟩
    let env : Environment :=
      { Environment.undisturbed "key" (fun _ => "a") fun _ => [] with
        fault := fun _ i => match i with
          | .saveStorage _ => some "connection lost"
          | _ => none }
    let w := World.start ⟨[disk.toRow], [], [], []⟩
    let ended := ((Request.transfer admin "s" "x" none).program false).run env w
    ended.1 = .error (.fault "connection lost") ∧ ended.2.tables = w.tables := by
  intro admin disk env w ended
  have hnormal : w.tables.IsNormal :=
    Tables.isNormal_of_toRow (rfl : disk.variant.IsNormal) rfl
  have hquiet : env.IsQuiet := fun _ _ => rfl
  have hfault : ended.1 = .error (.fault "connection lost") := rfl
  exact ⟨hfault, leaves_no_trace hnormal hquiet false (.transfer admin "s" "x" none) _ hfault⟩

end Request

end Depository
