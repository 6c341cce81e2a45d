import Depository.Proofs.Service.Request
import Depository.Proofs.Service.Trial

/-!
# Operations that do not heed the audit log

An operation notes what it did at its very end.  Once it asks the audit log its outcome is settled,
whatever it is answered, and all that it still does is to write lines to the log.  So two runs of it
that differ only in which questions to the audit log fail go on alike up to there, come to the same
outcome, and leave tables that differ in the audit log only.

* `Operation.Settles` — only reports are left, and the outcome is settled;
* `Operation.Heedless` — the operation asks the audit log only where that is so;
* `Environment.audited` — the environment in which the audit log never fails;
* `Operation.Heedless.run_audited` — **a run does not depend on the audit log**;
* `Request.reply_heedless` — that is so of every request.
-/

namespace Depository

namespace Environment

/-- The environment in which the audit log never fails, and all else is as it was. -/
def audited (env : Environment) : Environment :=
  { env with
    fault := fun k i =>
      match i with
      | .saveAudit _ => none
      | i => env.fault k i }

end Environment

/-- The world with another audit log. -/
def World.withAudit (w : World) (audit : List Row) : World :=
  { w with tables := w.tables.withAudit audit }

namespace Instruction

/-- The instruction does not ask the audit log. -/
def IsUnaudited : Instruction → Prop
  | saveAudit _ => False
  | _ => True

/-- The instruction puts no row into a table. -/
def PutsNothing : Instruction → Prop
  | saveStorage _ | saveAudit _ => False
  | _ => True

theorem PutsNothing.isUnaudited {i : Instruction} (h : i.PutsNothing) : i.IsUnaudited := by
  cases i <;> first | exact h.elim | trivial

theorem IsLookup.putsNothing {i : Instruction} (h : i.IsLookup) : i.PutsNothing := by
  cases i <;> first | exact h.elim | trivial

end Instruction

namespace Operation

variable {α β : Type} {o : Operation α} {f : α → Operation β} {outcome : Except Failure α}

/-- Only reports are left of the operation, and it comes to this outcome whatever the audit log
answers. -/
def Settles (outcome : Except Failure α) : Operation α → Prop
  | done result => result = outcome
  | ask (.log _) next => (next (.ok ())).Settles outcome
  | ask (.saveAudit _) next => ∀ r, (next r).Settles outcome
  | ask _ _ => False

/-- Where the operation asks the audit log, its outcome is settled. -/
def Heedless : Operation α → Prop
  | done _ => True
  | ask i next =>
    (∃ outcome, (ask i next).Settles outcome) ∨ i.IsUnaudited ∧ ∀ r, (next r).Heedless

/-! ### Rules -/

theorem Settles.heedless (h : o.Settles outcome) : o.Heedless := by
  cases o with
  | done result => trivial
  | ask i next => exact .inl ⟨outcome, h⟩

/-- What is made of a settled outcome is settled. -/
theorem Settles.bind_lift (h : o.Settles outcome) (g : α → Except Failure β) :
    (o >>= fun a => lift (g a)).Settles (outcome >>= g) := by
  induction o with
  | done result =>
    obtain rfl : result = outcome := h
    cases result <;> rfl
  | ask i next ih =>
    cases i with
    | log line => exact ih _ h
    | saveAudit entry => exact fun r => ih r (h r)
    | _ => exact h.elim

theorem Heedless.bind_lift (h : o.Heedless) (g : α → Except Failure β) :
    (o >>= fun a => lift (g a)).Heedless := by
  induction o with
  | done result => cases result <;> trivial
  | ask i next ih =>
    rcases h with ⟨outcome, hsettles⟩ | ⟨hi, hnext⟩
    · exact (hsettles.bind_lift g).heedless
    · exact .inr ⟨hi, fun r => ih r (hnext r)⟩

/-- What does not ask the audit log may come before anything else. -/
theorem Asks.heedless_bind (h : o.Asks Instruction.IsUnaudited) (hf : ∀ a, (f a).Heedless) :
    (o >>= f).Heedless := by
  induction o with
  | done result =>
    cases result with
    | ok a => exact hf a
    | error e => trivial
  | ask i next ih => exact .inr ⟨h.1, fun r => ih r (h.2 r)⟩

theorem Asks.heedless (h : o.Asks Instruction.IsUnaudited) : o.Heedless := by
  induction o with
  | done result => trivial
  | ask i next ih => exact .inr ⟨h.1, fun r => ih r (h.2 r)⟩

/-! ### Runs -/

variable {env : Environment}

theorem answer_audited (hq : env.IsQuiet) (w : World) (audit : List Row) {i : Instruction}
    (hi : i.IsUnaudited) :
    env.audited.answer (w.withAudit audit) i =
      ((env.answer w i).1, (env.answer w i).2.withAudit audit) := by
  cases i with
  | saveAudit entry => exact hi.elim
  | findStorage | listStorages | deleteStorage | findRole | findDatabases | drawId | log => rfl
  | saveStorage row =>
    have hidentify : env.audited.identify row (w.withAudit audit) =
        ((env.identify row w).1, (env.identify row w).2.withAudit audit) := by
      rw [Environment.identify, Environment.identify]
      split <;> rfl
    simp only [Environment.answer, hidentify]
    rfl
  | protect owner v =>
    show env.protect owner v (w.withAudit audit) =
      ((env.protect owner v w).1, (env.protect owner v w).2.withAudit audit)
    have hnonces : (w.withAudit audit).nonces = w.nonces := rfl
    rw [Environment.protect, Environment.protect, hnonces]
    split <;> rfl
  | probe owner v =>
    let report := env.report owner v w
    have hmeanwhile : env.meanwhile report (w.tables.withAudit audit) =
        (env.meanwhile report w.tables).withAudit audit := by rw [hq, hq]
    exact congrArg (fun tables => (report.outcome,
      { w with tables, calls := w.calls ++ report.calls, log := w.log ++ report.log
               ids := w.ids + report.drawn })) hmeanwhile

/-- **An instruction that does not ask the audit log** is answered as if the audit log were another
one and never failed, and leaves such a world. -/
theorem perform_audited (hq : env.IsQuiet) (w : World) (audit : List Row) {i : Instruction}
    (hi : i.IsUnaudited) :
    env.audited.perform (w.withAudit audit) i =
      ((env.perform w i).1, (env.perform w i).2.withAudit audit) := by
  have hfault : env.audited.faultOf (w.withAudit audit) i = env.faultOf w i := by
    cases i <;> first | exact hi.elim | rfl
  rw [Environment.perform, Environment.perform, hfault]
  cases env.faultOf w i with
  | some message => rfl
  | none => exact answer_audited hq { w with instructions := w.instructions + 1 } audit hi

/-- What is settled comes of it, and no table but the audit log is changed. -/
theorem Settles.run (h : o.Settles outcome) (env : Environment) (w : World) :
    (o.run env w).1 = outcome ∧ ∃ audit, (o.run env w).2.tables = w.tables.withAudit audit := by
  induction o generalizing w with
  | done result => exact ⟨h, w.tables.audit, rfl⟩
  | ask i next ih =>
    cases i with
    | log line => exact ih _ h _
    | saveAudit entry =>
      have hentry : (Instruction.saveAudit entry).IsReport := trivial
      have hreport : ∃ audit, (env.perform w (.saveAudit entry)).2.tables =
          w.tables.withAudit audit := perform_report hentry w
      obtain ⟨audit, hfirst⟩ := hreport
      obtain ⟨hout, audit', hrest⟩ := ih _ (h (env.perform w (.saveAudit entry)).1)
        (env.perform w (.saveAudit entry)).2
      rw [hfirst] at hrest
      exact ⟨hout, audit', hrest⟩
    | _ => exact h.elim

/-- **What does not heed the audit log does not depend on it**: where it is another one and never
fails, the outcome is the same, and so are the tables but for the audit log. -/
theorem Heedless.run_audited (h : o.Heedless) (hq : env.IsQuiet) (w : World) (audit : List Row) :
    (o.run env.audited (w.withAudit audit)).1 = (o.run env w).1 ∧
      ∃ audit', (o.run env.audited (w.withAudit audit)).2.tables =
        (o.run env w).2.tables.withAudit audit' := by
  induction o generalizing w with
  | done result => exact ⟨rfl, audit, rfl⟩
  | ask i next ih =>
    rcases h with ⟨outcome, hsettles⟩ | ⟨hi, hnext⟩
    · obtain ⟨hout, audit₁, htables⟩ := hsettles.run env w
      obtain ⟨hout', audit₂, htables'⟩ := hsettles.run env.audited (w.withAudit audit)
      refine ⟨hout'.trans hout.symm, audit₂, ?_⟩
      rw [htables', htables]
      rfl
    · have hrun : ∀ (env : Environment) w, (ask i next).run env w =
          (next (env.perform w i).1).run env (env.perform w i).2 := fun _ _ => rfl
      rw [hrun, hrun, perform_audited hq w audit hi]
      exact ih _ (hnext _) _

end Operation

namespace Service

open Operation

/-! ### Operations that note what they did -/

theorem recordAudit_settles (actor : Actor) (workspaceId : Cell) (message : String) :
    (recordAudit actor workspaceId message).Settles (.ok ()) := by
  rintro (e | row) <;> rfl

theorem log_unaudited (line : LogLine) : (log line).Asks Instruction.IsUnaudited :=
  asks_request trivial

theorem store_unaudited (s : Storage) : (store s).Asks Instruction.IsUnaudited :=
  store_asks (fun _ => trivial) s

theorem requireManage_unaudited (workspaceId : Cell) (actor : Actor) (reason : PermissionReason) :
    (requireManage workspaceId actor reason).Asks Instruction.IsUnaudited :=
  requireManage_asks trivial reason

/-- What was saved is told, and it is the value whatever the audit log answers. -/
theorem report_heedless (line : String → String → String → LogLine) (notice : String)
    (actor : Actor) (workspaceId : Cell) (saved : Storage) :
    (do
      let known ← lift saved.knownVariant
      log (line known.typeName (← told saved.id) (← told workspaceId))
      recordAudit actor workspaceId (notice ++ (← told saved.name))
      return saved : Operation Storage).Heedless := by
  refine Asks.heedless_bind (asks_lift _) fun known => Asks.heedless_bind (asks_told _) fun _ => ?_
  refine Asks.heedless_bind (asks_told _) fun _ => Asks.heedless_bind (log_unaudited _) fun _ => ?_
  refine Asks.heedless_bind (asks_told _) fun _ => ?_
  exact (recordAudit_settles _ _ _).heedless.bind_lift fun _ => .ok saved

theorem create_heedless (actor : Actor) (workspaceId : Cell) (input : Input) :
    (create actor workspaceId input).Heedless := by
  refine Asks.heedless_bind (asks_request trivial) fun id => ?_
  refine Asks.heedless_bind (asks_lift _) fun name => ?_
  refine Asks.heedless_bind (asks_lift _) fun submitted => ?_
  refine Asks.heedless_bind (asks_lift _) fun _ => ?_
  refine Asks.heedless_bind (asks_request trivial) fun variant => ?_
  refine Asks.heedless_bind (store_unaudited _) fun saved => ?_
  exact report_heedless LogLine.created _ actor workspaceId saved

theorem update_heedless (actor : Actor) (workspaceId id : Cell) (input : Input) :
    (update actor workspaceId id input).Heedless := by
  refine Asks.heedless_bind (get_asks trivial) fun existing => ?_
  refine Asks.heedless_bind (asks_require _ _) fun _ => ?_
  refine Asks.heedless_bind (asks_require _ _) fun _ => ?_
  refine Asks.heedless_bind (asks_lift _) fun current => ?_
  refine Asks.heedless_bind (asks_lift _) fun submitted => ?_
  refine Asks.heedless_bind (asks_lift _) fun _ => ?_
  refine Asks.heedless_bind (asks_request trivial) fun variant => ?_
  refine Asks.heedless_bind (asks_lift _) fun name => ?_
  refine Asks.heedless_bind (store_unaudited _) fun saved => ?_
  exact report_heedless LogLine.updated _ actor workspaceId saved

theorem save_heedless (cloudMode : Bool) (actor : Actor) (workspaceId : Cell) (input : Input) :
    (save cloudMode actor workspaceId input).Heedless := by
  refine Asks.heedless_bind (requireManage_unaudited _ _ _) fun _ => ?_
  refine Asks.heedless_bind (asks_require _ _) fun _ => ?_
  refine Asks.heedless_bind (asks_require _ _) fun _ => ?_
  refine Asks.heedless_bind (asks_lift _) fun name => ?_
  refine Asks.heedless_bind (asks_require _ _) fun _ => ?_
  -- the view is made of what was saved, after it was told
  refine Heedless.bind_lift ?_ (viewOf actor)
  rw [createOrUpdate]
  split
  · exact update_heedless actor workspaceId input.id input
  · exact create_heedless actor workspaceId input

theorem delete_heedless (actor : Actor) (id : Cell) : (delete actor id).Heedless := by
  refine Asks.heedless_bind (get_asks trivial) fun s => ?_
  refine Asks.heedless_bind (requireManage_unaudited _ _ _) fun _ => ?_
  refine Asks.heedless_bind (asks_require _ _) fun _ => ?_
  refine Asks.heedless_bind (asks_request trivial) fun databases => ?_
  refine Asks.heedless_bind (asks_require _ _) fun _ => ?_
  refine Asks.heedless_bind (asks_request trivial) fun _ => ?_
  refine Asks.heedless_bind (asks_told _) fun _ => Asks.heedless_bind (asks_told _) fun _ => ?_
  refine Asks.heedless_bind (log_unaudited _) fun _ => Asks.heedless_bind (asks_told _) fun _ => ?_
  exact (recordAudit_settles _ _ _).heedless

theorem transfer_heedless (actor : Actor) (id target single : Cell) :
    (transfer actor id target single).Heedless := by
  refine Asks.heedless_bind (get_asks trivial) fun s => ?_
  refine Asks.heedless_bind (asks_require _ _) fun _ => ?_
  refine Asks.heedless_bind (requireManage_unaudited _ _ _) fun _ => ?_
  refine Asks.heedless_bind (requireManage_unaudited _ _ _) fun _ => ?_
  refine Asks.heedless_bind (asks_request trivial) fun databases => ?_
  refine Asks.heedless_bind (requireDetached_asks _ _) fun _ => ?_
  refine Asks.heedless_bind (store_unaudited _) fun _ => ?_
  refine Asks.heedless_bind (asks_told _) fun _ => Asks.heedless_bind (asks_told _) fun _ => ?_
  refine Asks.heedless_bind (asks_told _) fun _ => Asks.heedless_bind (log_unaudited _) fun _ => ?_
  refine Asks.heedless_bind (asks_told _) fun _ => Asks.heedless_bind (asks_told _) fun _ => ?_
  refine Asks.heedless_bind (asks_told _) fun _ => ?_
  exact (recordAudit_settles _ _ _).heedless

/-! ### Testing a stored storage -/

theorem testStored_unaudited (actor : Actor) (id : Cell) :
    (testStored actor id).Asks Instruction.IsUnaudited := by
  have hrecord : ∀ error, (recordOutcome id error).Asks Instruction.IsUnaudited :=
    recordOutcome_asks trivial (fun _ => trivial) fun _ => trivial
  refine Asks.bind (get_asks trivial) fun s => Asks.bind (requireView_asks trivial _) fun _ => ?_
  refine Asks.bind (Asks.attempt ?_) ?_
  · cases s.variant with
    | none => exact asks_fail _
    | some v => exact asks_request trivial
  · rintro (e | a)
    · refine Asks.bind (hrecord _).attempt ?_
      rintro (e' | a)
      · refine Asks.bind (asks_told _) fun _ => Asks.bind (log_unaudited _) fun _ => asks_fail _
      · exact asks_fail _
    · exact hrecord none

/-! ### Removing the storages of a workspace -/

theorem deleteAll_putsNothing (storages : List Storage) :
    (deleteAll storages).Asks Instruction.PutsNothing := by
  induction storages with
  | nil => exact asks_pure ()
  | cons s rest ih => exact Asks.bind (asks_request trivial) fun _ => ih

theorem clearWorkspace_putsNothing (workspaceId : Cell) :
    (clearWorkspace workspaceId).Asks Instruction.PutsNothing := by
  refine Asks.bind ((list_lookups workspaceId).mono fun _ hi => hi.putsNothing) fun storages => ?_
  refine Asks.bind (asks_require _ _) fun _ => Asks.bind (deleteAll_putsNothing _) fun _ => ?_
  exact Asks.bind (asks_told _) fun _ => asks_request trivial

end Service

namespace Request

open Operation

/-- The request is for nothing that puts a row into a table. -/
def PutsNothing : Request → Prop
  | testSubmitted .. | read .. | readAll .. | clear _ => True
  | _ => False

theorem reply_putsNothing (cloudMode : Bool) {request : Request} (h : request.PutsNothing) :
    (request.reply cloudMode).Asks Instruction.PutsNothing := by
  have hread : ∀ {α : Type} {o : Operation α}, o.Asks Instruction.IsLookup →
      o.Asks Instruction.PutsNothing := fun ho => ho.mono fun _ hi => hi.putsNothing
  cases request with
  | testSubmitted actor s =>
    refine Asks.bind ?_ fun _ => asks_pure _
    rw [Service.testSubmitted_eq]
    exact Asks.bind (hread (Service.trial_asks cloudMode actor _)) fun _ => asks_request trivial
  | read actor id => exact Asks.bind (hread (Service.read_lookups actor _)) fun _ => asks_pure _
  | readAll actor workspaceId =>
    exact Asks.bind (hread (Service.readAll_lookups actor _)) fun _ => asks_pure _
  | clear workspaceId => exact Asks.bind (Service.clearWorkspace_putsNothing _) fun _ => asks_pure _
  | _ => exact h.elim

/-- **No request heeds the audit log.** -/
theorem reply_heedless (cloudMode : Bool) (request : Request) :
    (request.reply cloudMode).Heedless := by
  cases request with
  | save actor workspaceId s =>
    exact (Service.save_heedless cloudMode actor _ _).bind_lift fun v => .ok (Reply.view v)
  | delete actor id => exact (Service.delete_heedless actor _).bind_lift fun _ => .ok Reply.done
  | transfer actor id target single =>
    exact (Service.transfer_heedless actor _ _ _).bind_lift fun _ => .ok Reply.done
  | test actor id =>
    exact (Service.testStored_unaudited actor _).heedless.bind_lift fun _ => .ok Reply.done
  | testSubmitted | read | readAll | clear =>
    refine Asks.heedless (Asks.mono (reply_putsNothing cloudMode ?_) fun _ hi => hi.isUnaudited)
    trivial

end Request

end Depository
