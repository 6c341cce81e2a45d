import Depository.Proofs.Service.Asks
import Depository.Proofs.Service.Changes

/-!
# What an operation writes goes with what it found

An update, a deletion and a transfer look a storage up and decide by what they found; what they save
later is made from the row that they found, and it is of a system storage if that row was.  Others
may have written the row by then, so nothing is assumed of the answers to instructions
(`Operation.Guards`), and what is said is about the row that was found, not about the one that is
there.

* `Instruction.learn`, `Instruction.Permitted` — what an operation knows of the row, and what it may
  ask for with that;
* `Operation.Guards` — every instruction of an operation is permitted with what is known then, with
  its rules `Guards.bind` and `Asks.guards_bind`;
* `Request.program_guards` — **every request on a storage guards it.**
-/

namespace Depository

namespace Instruction

/-- What an operation knows of the row of a storage after an instruction: the row that it found,
until it has written itself. -/
def learn (known : Option Row) : (i : Instruction) → Except Failure i.Answer → Option Row
  | findStorage _, .ok found => found
  | saveStorage _, .ok _ | deleteStorage _, .ok _ => none
  | _, _ => known

/-- The instruction may stand in an operation on the storage of an id that knows this of its row.
Only a row that was found is written, and not as a private one if it was of a system storage. -/
def Permitted (id : String) (known : Option Row) : Instruction → Prop
  | findStorage other | deleteStorage other => other = .ofText id
  | saveStorage row => ∃ (old : Row) (s : Storage), known = some old ∧ s.toRow = .ok row ∧
      s.id = old.get? "id" ∧ (old.isSystem = true → s.isShared = true)
  | probe _ _ => False
  | _ => True

/-- The instruction has nothing to do with single storages. -/
def IsAside : Instruction → Prop
  | findStorage _ | saveStorage _ | deleteStorage _ | probe _ _ => False
  | _ => True

variable {i : Instruction} {id : String} {known : Option Row}

theorem IsAside.permitted (h : i.IsAside) : i.Permitted id known := by
  cases i <;> first | exact h.elim | trivial

theorem IsAside.learn (h : i.IsAside) (r : Except Failure i.Answer) :
    i.learn known r = known := by
  cases i <;> first | exact h.elim | rfl

theorem learn_error (i : Instruction) (e : Failure) : i.learn known (.error e) = known := by
  cases i <;> rfl

end Instruction

namespace Operation

variable {α β : Type} {id : String} {known : Option Row} {o : Operation α} {f : α → Operation β}
  {P : α → Option Row → Prop} {R : β → Option Row → Prop}

/-- Whatever it is answered, the operation asks only for what is permitted with what it knows then,
and `Q` holds of its value and of what it knows in the end. -/
def Guards (id : String) (Q : α → Option Row → Prop) : Option Row → Operation α → Prop
  | known, done (.ok a) => Q a known
  | _, done (.error _) => True
  | known, ask i next =>
    i.Permitted id known ∧ ∀ r, (next r).Guards id Q (i.learn known r)

theorem Guards.bind (h : o.Guards id P known)
    (hf : ∀ a known, P a known → (f a).Guards id R known) : (o >>= f).Guards id R known := by
  induction o generalizing known with
  | done outcome =>
    cases outcome with
    | ok a => exact hf a known h
    | error e => trivial
  | ask i next ih => exact ⟨h.1, fun r => ih r (h.2 r)⟩

/-- What has nothing to do with single storages comes before anything else. -/
theorem Asks.guards_bind (h : o.Asks Instruction.IsAside)
    (hf : ∀ a, (f a).Guards id R known) : (o >>= f).Guards id R known := by
  induction o with
  | done outcome =>
    cases outcome with
    | ok a => exact hf a
    | error e => trivial
  | ask i next ih =>
    refine ⟨h.1.permitted, fun r => ?_⟩
    rw [h.1.learn]
    exact ih r (h.2 r)

theorem Asks.guards (h : o.Asks Instruction.IsAside) :
    o.Guards id (fun _ _ => True) known := by
  have hend : (o >>= pure).Guards id (fun _ _ => True) known := guards_bind h fun _ => trivial
  have hpure : o >>= pure = o := o.bind_pure
  rwa [hpure] at hend

/-- A check comes before anything else, and what it says is known afterwards. -/
theorem guards_require_bind {condition : Bool} {e : Failure} {f : Unit → Operation β}
    (hf : condition = true → (f ()).Guards id R known) :
    (require condition e >>= f).Guards id R known := by
  cases condition with
  | true => exact hf rfl
  | false => trivial

end Operation

namespace Service

open Operation

variable {id : String} {known : Option Row}

theorem get_guards :
    (get (.ofText id)).Guards id (fun s known => ∃ row, known = some row ∧
      Storage.ofRow row = .ok s) known := by
  refine Guards.bind (P := fun found known => ∀ s, found = some s →
    ∃ row, known = some row ∧ Storage.ofRow row = .ok s) ⟨rfl, ?_⟩ ?_
  · rintro (e | _ | row)
    · trivial
    · exact fun s hs => nomatch hs
    · show (lift (loadOption (some row))).Guards id _ (some row)
      cases hread : Storage.ofRow row with
      | error e =>
        rw [loadOption, hread]
        trivial
      | ok s =>
        rw [loadOption_of_ofRow hread]
        exact fun s' hs' => ⟨row, rfl, hread.trans (congrArg _ (Option.some.inj hs'))⟩
  · rintro (_ | s) known hfound
    · exact Asks.guards_bind (asks_told _) fun _ => trivial
    · exact hfound s rfl

/-- A storage is stored in place of the one that was found, and what follows only tells of it. -/
theorem store_guards {α : Type} {old : Row} {s : Storage} {f : Storage → Operation α}
    (hid : s.id = old.get? "id") (stays : old.isSystem = true → s.isShared = true)
    (hf : ∀ saved, (f saved).Asks Instruction.IsAside) :
    (store s >>= f).Guards id (fun _ _ => True) (some old) := by
  refine Guards.bind (P := fun _ _ => True) ?_ fun saved known _ => (hf saved).guards
  cases hrow : s.toRow with
  | error e =>
    rw [store, hrow]
    trivial
  | ok row =>
    rw [store, hrow]
    refine ⟨⟨old, s, rfl, hrow, hid, stays⟩, fun r => ?_⟩
    exact Asks.guards (o := done r >>= fun saved => lift (Storage.ofRow saved))
      (Asks.bind (asks_lift r) fun _ => asks_lift _)

theorem recordAudit_aside (actor : Actor) (workspaceId : Cell) (message : String) :
    (recordAudit actor workspaceId message).Asks Instruction.IsAside :=
  recordAudit_asks (fun _ => trivial) (fun _ => trivial) actor workspaceId message

theorem requireManage_aside (workspaceId : Cell) (actor : Actor) (reason : PermissionReason) :
    (requireManage workspaceId actor reason).Asks Instruction.IsAside :=
  requireManage_asks trivial reason

theorem log_aside (line : LogLine) : (log line).Asks Instruction.IsAside := asks_request trivial

theorem update_guards (actor : Actor) (workspaceId : Cell) (input : Input) :
    (update actor workspaceId (.ofText id) input).Guards id (fun _ _ => True) none := by
  refine Guards.bind get_guards ?_
  rintro existing _ ⟨row, rfl, hread⟩
  refine Asks.guards_bind (asks_require _ _) fun _ => guards_require_bind fun hstays => ?_
  refine Asks.guards_bind (asks_lift _) fun current => ?_
  refine Asks.guards_bind (asks_lift _) fun submitted => ?_
  refine Asks.guards_bind (asks_lift _) fun _ => ?_
  refine Asks.guards_bind (asks_request trivial) fun variant => ?_
  refine Asks.guards_bind (asks_lift _) fun name => ?_
  refine store_guards (Storage.columns_of_ofRow hread).1 ?stays fun saved => ?told
  case stays =>
    -- what is shared cannot be made private
    intro hwas
    rw [(Storage.isShared_of_ofRow hread).trans hwas] at hstays
    simpa [Storage.isShared] using hstays
  case told =>
    refine Asks.bind (asks_lift _) fun known => ?_
    refine Asks.bind (asks_told _) fun _ => Asks.bind (asks_told _) fun _ => ?_
    refine Asks.bind (log_aside _) fun _ => Asks.bind (asks_told _) fun _ => ?_
    exact Asks.bind (recordAudit_aside _ _ _) fun _ => asks_pure _

theorem delete_guards (actor : Actor) :
    (delete actor (.ofText id)).Guards id (fun _ _ => True) none := by
  refine Guards.bind get_guards fun s known _ => ?_
  refine Asks.guards_bind (requireManage_aside _ _ _) fun _ => ?_
  refine Asks.guards_bind (asks_require _ _) fun _ => ?_
  refine Asks.guards_bind (asks_request trivial) fun databases => ?_
  refine Asks.guards_bind (asks_require _ _) fun _ => ?_
  refine Guards.bind (P := fun _ _ => True) ⟨rfl, ?_⟩ fun _ known _ => ?_
  · rintro (e | a) <;> trivial
  · refine Asks.guards (Asks.bind (asks_told _) fun _ => Asks.bind (asks_told _) fun _ => ?_)
    refine Asks.bind (log_aside _) fun _ => Asks.bind (asks_told _) fun _ => ?_
    exact recordAudit_aside _ _ _

theorem transfer_guards (actor : Actor) (target single : Cell) :
    (transfer actor (.ofText id) target single).Guards id (fun _ _ => True) none := by
  refine Guards.bind get_guards ?_
  rintro s _ ⟨row, rfl, hread⟩
  refine guards_require_bind fun hprivate => ?_
  refine Asks.guards_bind (requireManage_aside _ _ _) fun _ => ?_
  refine Asks.guards_bind (requireManage_aside _ _ _) fun _ => ?_
  refine Asks.guards_bind (asks_request trivial) fun databases => ?_
  refine Asks.guards_bind (requireDetached_asks _ _) fun _ => ?_
  refine store_guards (Storage.columns_of_ofRow hread).1 ?stays fun saved => ?told
  case stays => exact (Storage.isShared_of_ofRow hread).trans
  case told =>
    refine Asks.bind (asks_told _) fun _ => Asks.bind (asks_told _) fun _ => ?_
    refine Asks.bind (asks_told _) fun _ => Asks.bind (log_aside _) fun _ => ?_
    refine Asks.bind (asks_told _) fun _ => Asks.bind (asks_told _) fun _ => ?_
    exact Asks.bind (asks_told _) fun _ => recordAudit_aside _ _ _

end Service

/-- The request is an update, a deletion or a transfer of the storage of an id. -/
def Request.IsOn (id : String) : Request → Prop
  | save _ _ s => s.id = some id ∧ id ≠ ""
  | delete _ other | transfer _ other _ _ => other = id
  | _ => False

open Operation in
/-- What a request on a storage writes goes with what it found. -/
theorem Request.program_guards {id : String} (cloudMode : Bool) {request : Request}
    (h : request.IsOn id) :
    (request.program cloudMode).Guards id (fun _ _ => True) none := by
  cases request with
  | save actor workspaceId s =>
    obtain ⟨hid, hne⟩ := h
    have hupdate : Service.createOrUpdate actor (.ofText workspaceId) s.toInput =
        Service.update actor (.ofText workspaceId) (.ofText id) s.toInput := by
      rw [Service.createOrUpdate, Submission.id_toInput hid, if_pos (Cell.isTruthy_ofText.2 hne)]
    refine Guards.bind (P := fun _ _ => True) ?_ fun _ known _ => trivial
    refine Asks.guards_bind (Service.requireManage_aside _ _ _) fun _ => ?_
    refine Asks.guards_bind (asks_require _ _) fun _ => ?_
    refine Asks.guards_bind (asks_require _ _) fun _ => ?_
    refine Asks.guards_bind (asks_lift _) fun name => ?_
    refine Asks.guards_bind (asks_require _ _) fun _ => ?_
    rw [hupdate]
    exact Guards.bind (Service.update_guards actor _ _) fun saved known _ => (asks_lift _).guards
  | delete actor other =>
    obtain rfl : other = id := h
    exact Service.delete_guards actor
  | transfer actor other target single =>
    obtain rfl : other = id := h
    exact Service.transfer_guards actor _ _
  | _ => exact h.elim

end Depository
