import Depository.Proofs.Service.Parts
import Depository.Service.Read
import Depository.Service.Remove
import Depository.Service.Test

/-!
# What operations ask

Of some operations it is enough to know which instructions stand in them, in whatever branch.  Those
that only look something up leave the world as it is, those that only tell what was done leave the
storages as they are, and those that test no connection hand nothing to a backend.

* `Operation.Asks` — every instruction of the operation is of a kind;
* `Operation.Asks.run_lookups` — an operation of look-ups changes nothing but the count of
  instructions;
* `Operation.Asks.ends_tables` — what each instruction may do to the tables, a run may do;
* `Operation.Asks.ends_reports` — an operation of reports changes no table but the audit log;
* `Operation.probes` — the connection tests of a run, and `Operation.handed`, what is handed to the
  backends in them;
* `Operation.probes_bind` — the connection tests of one operation after another.
-/

namespace Depository

namespace Instruction

/-- The instruction looks something up in a table. -/
def IsLookup : Instruction → Prop
  | findStorage _ | listStorages _ | findRole _ _ | findDatabases _ => True
  | _ => False

/-- The instruction tells what was done, to the log or to the audit log. -/
def IsReport : Instruction → Prop
  | saveAudit _ | log _ => True
  | _ => False

/-- The connection that the instruction tests, if it tests one: its owner and its variant. -/
def probe? : Instruction → Option (Cell × Variant)
  | probe owner v => some (owner, v)
  | _ => none

theorem IsLookup.probe? {i : Instruction} (h : i.IsLookup) : i.probe? = none := by
  cases i <;> first | exact h.elim | rfl

end Instruction

namespace Operation

variable {α β : Type} {allowed allowed' : Instruction → Prop} {o : Operation α}
  {f : α → Operation β}

/-! ### Kinds of instructions -/

/-- Whatever it is answered, the operation asks nothing but what is allowed. -/
def Asks (allowed : Instruction → Prop) : Operation α → Prop
  | done _ => True
  | ask i next => allowed i ∧ ∀ r, (next r).Asks allowed

theorem asks_lift (outcome : Except Failure α) : (lift outcome).Asks allowed := trivial

theorem asks_pure (a : α) : (pure a : Operation α).Asks allowed := trivial

theorem asks_fail (e : Failure) : (fail e : Operation α).Asks allowed := trivial

theorem asks_require (condition : Bool) (e : Failure) : (require condition e).Asks allowed := by
  cases condition <;> trivial

theorem asks_told (c : Cell) : (told c).Asks allowed := by
  rw [told]
  cases c.plainText? <;> trivial

theorem asks_request {i : Instruction} (h : allowed i) : (request i).Asks allowed :=
  ⟨h, fun _ => trivial⟩

theorem Asks.bind (h : o.Asks allowed) (hf : ∀ a, (f a).Asks allowed) :
    (o >>= f).Asks allowed := by
  induction o with
  | done outcome =>
    cases outcome with
    | ok a => exact hf a
    | error e => trivial
  | ask i next ih => exact ⟨h.1, fun r => ih r (h.2 r)⟩

theorem Asks.attempt (h : o.Asks allowed) : o.attempt.Asks allowed := by
  induction o with
  | done outcome => trivial
  | ask i next ih => exact ⟨h.1, fun r => ih r (h.2 r)⟩

theorem Asks.mono (h : o.Asks allowed) (hall : ∀ i, allowed i → allowed' i) : o.Asks allowed' := by
  induction o with
  | done outcome => trivial
  | ask i next ih => exact ⟨hall i h.1, fun r => ih r (h.2 r)⟩

/-! ### Runs -/

/-- **What each instruction may do to the tables, a run may do**, if it may be done again and
again. -/
theorem Asks.ends_tables {R : Tables → Tables → Prop} {env : Environment} {t : Tables} {n : Nat}
    (h : o.Asks allowed) (hrefl : ∀ t, R t t) (htrans : ∀ t u v, R t u → R u v → R t v)
    (hstep : ∀ (w : World) (i : Instruction), allowed i → R w.tables (env.perform w i).2.tables) :
    o.Ends env t n (fun _ w => R t w.tables) (fun _ w => R t w.tables) := by
  have hrun : ∀ w : World, R w.tables (o.run env w).2.tables := by
    induction o with
    | done outcome => exact fun w => hrefl w.tables
    | ask i next ih => exact fun w => htrans _ _ _ (hstep w i h.1) (ih _ (h.2 _) _)
  rintro w ⟨rfl, -⟩
  have hend := hrun w
  rcases ho : o.run env w with ⟨e | a, w'⟩ <;> rw [ho] at hend <;> exact hend

/-! ### Look-ups -/

variable {env : Environment} {w : World}

/-- A look-up changes nothing, whether it is answered or fails. -/
theorem perform_lookup {i : Instruction} (h : i.IsLookup) (w : World) :
    (env.perform w i).2 = { w with instructions := w.instructions + 1 } := by
  rw [Environment.perform]
  cases env.faultOf w i with
  | some message => rfl
  | none => cases i <;> first | exact h.elim | rfl

/-- **An operation of look-ups changes nothing** but the count of instructions. -/
theorem Asks.run_lookups (h : o.Asks Instruction.IsLookup) (w : World) :
    ∃ k, (o.run env w).2 = { w with instructions := k } := by
  induction o generalizing w with
  | done outcome => exact ⟨w.instructions, rfl⟩
  | ask i next ih =>
    have hrun : (ask i next).run env w =
        (next (env.perform w i).1).run env { w with instructions := w.instructions + 1 } := by
      rw [← perform_lookup h.1]
      rfl
    obtain ⟨k, hk⟩ := ih _ (h.2 (env.perform w i).1) { w with instructions := w.instructions + 1 }
    exact ⟨k, by rw [hrun, hk]⟩

/-! ### Reports -/

/-- A report changes no table but the audit log. -/
theorem perform_report {i : Instruction} (h : i.IsReport) (w : World) :
    ∃ audit, (env.perform w i).2.tables = w.tables.withAudit audit := by
  rw [Environment.perform]
  cases env.faultOf w i with
  | some message => exact ⟨w.tables.audit, rfl⟩
  | none =>
    cases i with
    | log line => exact ⟨w.tables.audit, rfl⟩
    | saveAudit entry =>
      let counted : World := { w with instructions := w.instructions + 1 }
      let saved := env.identify entry counted
      have hnoted : (saved.2.note saved.1).tables = w.tables.note saved.1 :=
        congrArg (Tables.note saved.1) (env.tables_identify entry counted)
      exact ⟨w.tables.audit ++ [saved.1], hnoted⟩
    | _ => exact h.elim

/-- **An operation of reports changes no table but the audit log.** -/
theorem Asks.ends_reports {t : Tables} {n : Nat} (h : o.Asks Instruction.IsReport) :
    o.Ends env t n (fun _ w => ∃ audit, w.tables = t.withAudit audit)
      (fun _ w => ∃ audit, w.tables = t.withAudit audit) := by
  refine h.ends_tables (R := fun t u => ∃ audit, u = t.withAudit audit)
    (fun t => ⟨t.audit, rfl⟩) ?_ fun w i hi => perform_report hi w
  rintro t _ _ ⟨_, rfl⟩ ⟨audit, rfl⟩
  exact ⟨audit, rfl⟩

/-! ### Connection tests -/

/-- The connections that a run of the operation tests, with their owners. -/
def probes (env : Environment) : Operation α → World → List (Cell × Variant)
  | done _, _ => []
  | ask i next, w =>
    let (r, after) := env.perform w i
    i.probe?.toList ++ (next r).probes env after

/-- An operation without such an instruction tests no connection. -/
theorem Asks.probes (h : o.Asks fun i => i.probe? = none) (w : World) : o.probes env w = [] := by
  induction o generalizing w with
  | done outcome => rfl
  | ask i next ih =>
    have hprobes : (ask i next).probes env w = i.probe?.toList ++
        (next (env.perform w i).1).probes env (env.perform w i).2 := rfl
    rw [hprobes, h.1, ih _ (h.2 _)]
    rfl

end Operation

/-! ### The parts of operations -/

namespace Service

open Operation

variable {allowed : Instruction → Prop}

theorem find?_asks {id : Cell} (h : allowed (.findStorage id)) : (find? id).Asks allowed :=
  Asks.bind (asks_request h) fun _ => asks_lift _

theorem get_asks {id : Cell} (h : allowed (.findStorage id)) : (get id).Asks allowed := by
  refine Asks.bind (find?_asks h) fun found => ?_
  cases found with
  | none => exact Asks.bind (asks_told _) fun _ => asks_fail _
  | some s => exact asks_pure s

theorem requireView_asks {workspaceId : Cell} {actor : Actor}
    (h : allowed (.findRole workspaceId actor.id)) (reason : PermissionReason) :
    (requireView workspaceId actor reason).Asks allowed :=
  Asks.bind (Asks.bind (asks_request h) fun _ => asks_pure _) fun _ => asks_require _ _

theorem requireManage_asks {workspaceId : Cell} {actor : Actor}
    (h : allowed (.findRole workspaceId actor.id)) (reason : PermissionReason) :
    (requireManage workspaceId actor reason).Asks allowed := by
  refine Asks.bind ?_ fun _ => asks_require _ _
  rw [canManage]
  split
  · exact asks_pure true
  · exact Asks.bind (asks_request h) fun _ => asks_lift _

theorem requireDetached_asks (databases : List Cell) (single : Cell) :
    (requireDetached databases single).Asks allowed := by
  rw [requireDetached]
  split <;> exact asks_require _ _

theorem store_asks (hsave : ∀ row, allowed (.saveStorage row)) (s : Storage) :
    (store s).Asks allowed :=
  Asks.bind (asks_lift _) fun row => Asks.bind (asks_request (hsave row)) fun _ => asks_lift _

theorem recordOutcome_asks {id : Cell} (hfind : allowed (.findStorage id))
    (hsave : ∀ row, allowed (.saveStorage row)) (hlog : ∀ line, allowed (.log line))
    (error : Option String) : (recordOutcome id error).Asks allowed := by
  refine Asks.bind (find?_asks hfind) fun found => ?_
  cases found with
  | none => exact asks_pure ()
  | some current =>
    have hstore : ∀ s, (store s >>= fun _ => pure ()).Asks allowed := fun s =>
      Asks.bind (store_asks hsave s) fun _ => asks_pure ()
    dsimp only
    split
    · exact hstore _
    · exact hstore _
    · refine Asks.bind (asks_told _) fun _ => ?_
      exact Asks.bind (asks_request (hlog _)) fun _ => hstore _

theorem recordAudit_asks (hsave : ∀ entry, allowed (.saveAudit entry))
    (hlog : ∀ line, allowed (.log line)) (actor : Actor) (workspaceId : Cell) (message : String) :
    (recordAudit actor workspaceId message).Asks allowed := by
  refine Asks.bind (Asks.attempt (Asks.bind (asks_request (hsave _)).attempt ?_)) ?_
  · rintro (e | row)
    · exact Asks.bind (asks_request (hlog _)) fun _ => asks_fail e
    · exact asks_pure row
  · rintro (e | row)
    · exact asks_request (hlog _)
    · exact asks_pure ()

/-! ### Operations that only read -/

theorem list_lookups (workspaceId : Cell) : (list workspaceId).Asks Instruction.IsLookup :=
  Asks.bind (asks_request trivial) fun _ => asks_lift _

theorem read_lookups (actor : Actor) (id : Cell) : (read actor id).Asks Instruction.IsLookup := by
  refine Asks.bind (get_asks trivial) fun s => ?_
  split
  · exact asks_lift _
  · exact Asks.bind (requireView_asks trivial _) fun _ => asks_lift _

theorem readAll_lookups (actor : Actor) (workspaceId : Cell) :
    (readAll actor workspaceId).Asks Instruction.IsLookup :=
  Asks.bind (requireView_asks trivial _) fun _ =>
    Asks.bind (list_lookups workspaceId) fun _ => asks_lift _

end Service

end Depository
