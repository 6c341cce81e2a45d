import Depository.Proofs.Service.Remove
import Depository.Proofs.Service.Test

/-!
# Requests and what they do to the tables

The operations of the service with their arguments are requests.  What a request did to the tables
when it was done, and when it failed, is collected here from the statements about the operations
(`Request.program_ends`), so that properties of all operations are proved by cases on the request.
-/

namespace Depository

/-- An operation of the service with its arguments. -/
inductive Request where
  | save (actor : Actor) (workspaceId : String) (submission : Submission)
  | delete (actor : Actor) (id : String)
  /-- `single` is the one database that may be attached, if one is given. -/
  | transfer (actor : Actor) (id target : String) (single : Option String)
  | test (actor : Actor) (id : String)
  | testSubmitted (actor : Actor) (submission : Submission)
  | read (actor : Actor) (id : String)
  | readAll (actor : Actor) (workspaceId : String)
  /-- A workspace is about to be removed; nobody is asked for his rights. -/
  | clear (workspaceId : String)

namespace Request

open Operation

/-- The program of a request, its value left out. -/
def program (cloudMode : Bool) : Request → Operation Unit
  | save actor workspaceId s =>
    Service.save cloudMode actor (.ofText workspaceId) s.toInput >>= fun _ => pure ()
  | delete actor id => Service.delete actor (.ofText id)
  | transfer actor id target single =>
    Service.transfer actor (.ofText id) (.ofText target) (single.map .string)
  | test actor id => Service.testStored actor (.ofText id)
  | testSubmitted actor s => Service.testSubmitted cloudMode actor s.toInput
  | read actor id => Service.read actor (.ofText id) >>= fun _ => pure ()
  | readAll actor workspaceId => Service.readAll actor (.ofText workspaceId) >>= fun _ => pure ()
  | clear workspaceId => Service.clearWorkspace (.ofText workspaceId)

/-- What a request comes to. -/
inductive Reply where
  | done
  | view (v : View)
  | views (vs : List View)

/-- The program of a request, with its value. -/
def reply (cloudMode : Bool) : Request → Operation Reply
  | save actor workspaceId s =>
    Service.save cloudMode actor (.ofText workspaceId) s.toInput >>= fun v => pure (.view v)
  | delete actor id => Service.delete actor (.ofText id) >>= fun _ => pure .done
  | transfer actor id target single =>
    Service.transfer actor (.ofText id) (.ofText target) (single.map .string) >>= fun _ =>
      pure .done
  | test actor id => Service.testStored actor (.ofText id) >>= fun _ => pure .done
  | testSubmitted actor s =>
    Service.testSubmitted cloudMode actor s.toInput >>= fun _ => pure .done
  | read actor id => Service.read actor (.ofText id) >>= fun v => pure (.view v)
  | readAll actor workspaceId =>
    Service.readAll actor (.ofText workspaceId) >>= fun vs => pure (.views vs)
  | clear workspaceId => Service.clearWorkspace (.ofText workspaceId) >>= fun _ => pure .done

/-- Who asks. -/
def actor? : Request → Option Actor
  | save actor .. | delete actor .. | transfer actor .. | test actor .. | testSubmitted actor ..
  | read actor .. | readAll actor .. => some actor
  | clear _ => none

/-- The submission that comes with a request. -/
def submission? : Request → Option Submission
  | save _ _ s | testSubmitted _ s => some s
  | _ => none

/-- The submission that comes with the request, if there is one, was read from a body. -/
def IsParsed (request : Request) : Prop := ∀ s ∈ request.submission?, s.IsParsed

/-- The request is for a new storage, whose id is yet to be drawn. -/
def IsCreation : Request → Prop
  | save _ _ s => s.id = none ∨ s.id = some ""
  | _ => False

/-- What was done to the tables `t` when a request came to its value. -/
def Done (env : Environment) (cloudMode : Bool) (t : Tables) (n : Nat) :
    Request → Tables → Prop
  | save actor workspaceId s, after =>
    Service.MaySave cloudMode actor workspaceId s t ∧
      ∃ r audit, Service.SavedAs env t n workspaceId s r ∧
        after = (t.save r.toRow).withAudit audit
  | delete actor id, after =>
    ∃ r audit, r.id = id ∧ Service.MayDelete actor t r ∧
      after = (t.delete (.ofText id)).withAudit audit
  | transfer actor id target single, after =>
    ∃ r audit, r.id = id ∧ Service.MayTransfer actor t target (single.map .string) r ∧
      after = (t.save { r with workspaceId := target }.toRow).withAudit audit
  | test actor id, after => Service.Tested actor t id after
  | testSubmitted .., after | read .., after | readAll .., after => after = t
  | clear workspaceId, after =>
    (∀ row ∈ t.storages, ∀ r : Record, row.Holds r → r.workspaceId = workspaceId →
      r.isSystem = false) ∧ after = Service.vacate (.ofText workspaceId) t

/-- What was done to the tables `t` when a request failed. -/
def Failed (env : Environment) (t : Tables) : Request → Tables → Prop
  | test actor id, after => Service.Tested actor t id after
  | clear workspaceId, after =>
    after = t ∨ (∃ k id m, env.fault k (.deleteStorage id) = some m) ∧
      Service.PartlyVacated (.ofText workspaceId) t after
  | _, after => after = t

variable {env : Environment} {t : Tables} {n : Nat}

/-- The two programs of a request differ in the value only. -/
theorem program_eq (cloudMode : Bool) (request : Request) :
    request.program cloudMode = request.reply cloudMode >>= fun _ => pure () := by
  have hdiscard : ∀ {α : Type} (o : Operation α) (g : α → Reply), (o >>= fun _ => pure ()) =
      (o >>= fun a => pure (g a)) >>= fun _ => pure () := fun o g =>
    (bind_bind o (fun a => pure (g a)) fun _ => pure ()).symm
  have hunit : ∀ o : Operation Unit, o = o >>= fun _ => pure () := fun o => (bind_pure o).symm
  cases request with
  | save | read | readAll => exact hdiscard _ _
  | delete | transfer | test | testSubmitted | clear => exact (hunit _).trans (hdiscard _ _)

theorem ends_discard {α : Type} {o : Operation α} {failed : Failure → World → Prop}
    {P : Tables → Prop} (h : o.Ends env t n failed fun _ w => P w.tables) :
    (o >>= fun _ => pure ()).Ends env t n failed fun _ w => P w.tables := by
  refine Ends.bind h fun _ w hw => ends_pure fun w' hw' => ?_
  rw [hw'.tables]
  exact hw

/-- **What every request does to the tables**, one operation after another. -/
theorem program_ends (h : t.IsNormal) (hq : env.IsQuiet) (cloudMode : Bool) (request : Request) :
    (request.program cloudMode).Ends env t n (fun _ w => request.Failed env t w.tables)
      (fun _ w => request.Done env cloudMode t n w.tables) := by
  cases request with
  | save actor workspaceId s =>
    exact ends_discard (Service.save_ends h cloudMode actor workspaceId s)
  | delete actor id => exact Service.delete_ends h actor id
  | transfer actor id target single => exact Service.transfer_ends h actor id target _
  | test actor id => exact Service.testStored_ends h hq actor id
  | testSubmitted actor s => exact Service.testSubmitted_ends h hq cloudMode actor s
  | read actor id =>
    exact ends_discard (Ends.mono (Service.read_reads h actor id) (fun _ _ hw => hw.tables)
      fun _ _ hw => hw.1.tables)
  | readAll actor workspaceId =>
    exact ends_discard (Ends.mono (Service.readAll_reads actor _) (fun _ _ hw => hw.tables)
      fun _ _ hw => hw.1.tables)
  | clear workspaceId => exact Service.clearWorkspace_ends h workspaceId

/-- A global administrator saves a storage. -/
def saveBackups : Request :=
  .save ⟨.ofText "u", .admin⟩ Submission.backups.workspaceId .backups

theorem isParsed_saveBackups : saveBackups.IsParsed :=
  fun _ hs => Option.some.inj hs ▸ Submission.isParsed_backups

/-- What comes of it in a service without storages. -/
def savedBackups : Except Failure Unit × World :=
  (saveBackups.program false).run
    (.undisturbed "key" (fun _ => "a") fun _ => List.replicate 12 0) (.start ⟨[], [], [], []⟩)

end Request

end Depository
