import Depository.Proofs.Service.Trial

/-!
# Operations that leave the storages alone

Two instructions change the table of storages, and an operation that has neither of them in any of
its branches leaves the table as it is, whatever it is told and however it ends
(`Operation.Spares.ends`).  This is so of everything that looks something up, checks a right, tests
a connection or tells what was done; nothing needs to be known of the rows for it.
-/

namespace Depository

namespace Operation

variable {α β : Type}

/-- The operation neither saves nor deletes a storage. -/
def Spares : Operation α → Prop
  | done _ => True
  | ask i next =>
    (∀ row, i ≠ .saveStorage row) ∧ (∀ id, i ≠ .deleteStorage id) ∧ ∀ r, (next r).Spares

variable {o : Operation α} {f : α → Operation β}

theorem spares_done (outcome : Except Failure α) : (done outcome).Spares := trivial

theorem spares_pure (a : α) : (pure a : Operation α).Spares := trivial

theorem spares_fail (e : Failure) : (fail e : Operation α).Spares := trivial

theorem spares_lift (outcome : Except Failure α) : (lift outcome).Spares := trivial

theorem spares_told (c : Cell) : (told c).Spares := by
  rw [told]
  cases c.plainText? <;> trivial

theorem spares_request {i : Instruction} (hsave : ∀ row, i ≠ .saveStorage row)
    (hdelete : ∀ id, i ≠ .deleteStorage id) : (request i).Spares :=
  ⟨hsave, hdelete, spares_done⟩

theorem spares_log (line : LogLine) : (log line).Spares := spares_request (by simp) (by simp)

theorem Spares.bind (h : o.Spares) (hf : ∀ a, (f a).Spares) : (o >>= f).Spares := by
  induction o with
  | done outcome =>
    cases outcome with
    | ok a => exact hf a
    | error e => trivial
  | ask i next ih => exact ⟨h.1, h.2.1, fun r => ih r (h.2.2 r)⟩

theorem Spares.attempt (h : o.Spares) : o.attempt.Spares := by
  induction o with
  | done outcome => trivial
  | ask i next ih => exact ⟨h.1, h.2.1, fun r => ih r (h.2.2 r)⟩

theorem Spares.asks (h : o.Spares) :
    o.Asks fun i => (∀ row, i ≠ .saveStorage row) ∧ ∀ id, i ≠ .deleteStorage id := by
  induction o with
  | done outcome => trivial
  | ask i next ih => exact ⟨⟨h.1, h.2.1⟩, fun r => ih r (h.2.2 r)⟩

/-- Whatever only looks something up spares the storages. -/
theorem Asks.spares (h : o.Asks Instruction.IsLookup) : o.Spares := by
  induction o with
  | done outcome => trivial
  | ask i next ih =>
    refine ⟨?_, ?_, fun r => ih r (h.2 r)⟩ <;> rintro _ rfl <;> exact h.1

variable {env : Environment} {t : Tables} {n : Nat}

/-- **An operation that spares the storages ends with the storages it started from.** -/
theorem Spares.ends (h : o.Spares) (hq : env.IsQuiet) :
    o.Ends env t n (fun _ w => w.tables.storages = t.storages)
      (fun _ w => w.tables.storages = t.storages) := by
  refine h.asks.ends_tables (R := fun t u => u.storages = t.storages) (fun _ => rfl)
    (fun _ _ _ htu huv => huv.trans htu) ?_
  exact fun w _ ⟨hsave, hdelete⟩ => Service.storages_perform hq w hsave hdelete

end Operation

namespace Service

open Operation

/-! ### Looking up and checking -/

theorem spares_requireView (workspaceId : Cell) (actor : Actor) (reason : PermissionReason) :
    (requireView workspaceId actor reason).Spares := (requireView_asks trivial reason).spares

theorem spares_requireManage (workspaceId : Cell) (actor : Actor) (reason : PermissionReason) :
    (requireManage workspaceId actor reason).Spares := (requireManage_asks trivial reason).spares

/-! ### Telling what was done -/

theorem spares_recordAudit (actor : Actor) (workspaceId : Cell) (message : String) :
    (recordAudit actor workspaceId message).Spares := by
  have hwrite : ∀ entry, (writeAudit entry).Spares := by
    intro entry
    refine Spares.bind (Spares.attempt (spares_request (by simp) (by simp))) ?_
    rintro (e | row)
    · exact Spares.bind (spares_log _) fun _ => spares_fail e
    · exact spares_pure row
  refine Spares.bind (Spares.attempt (hwrite _)) ?_
  rintro (e | row)
  · exact spares_log _
  · exact spares_pure ()

/-- What is told of a change, in the log and in the audit log. -/
theorem spares_tell (line : LogLine) (actor : Actor) (workspaceId : Cell) (message : String) :
    (log line >>= fun _ => recordAudit actor workspaceId message).Spares :=
  Spares.bind (spares_log line) fun _ => spares_recordAudit actor workspaceId message

/-- The same, before the operation comes to its value. -/
theorem spares_report (line : LogLine) (actor : Actor) (workspaceId : Cell) (message : String)
    {α : Type} (a : α) :
    (log line >>= fun _ => recordAudit actor workspaceId message >>= fun _ => pure a).Spares :=
  Spares.bind (spares_log line) fun _ =>
    Spares.bind (spares_recordAudit actor workspaceId message) fun _ => spares_pure a

/-! ### Whole operations -/

theorem spares_testSubmitted (cloudMode : Bool) (actor : Actor) (input : Input) :
    (testSubmitted cloudMode actor input).Spares := by
  rw [testSubmitted_eq]
  exact Spares.bind (trial_asks cloudMode actor input).spares fun _ =>
    spares_request (by simp) (by simp)

theorem spares_read (actor : Actor) (id : Cell) : (read actor id).Spares :=
  (read_lookups actor id).spares

theorem spares_readAll (actor : Actor) (workspaceId : Cell) :
    (readAll actor workspaceId).Spares := (readAll_lookups actor workspaceId).spares

end Service

end Depository
