import Depository.Proofs.Service.Parts
import Depository.Service.Read

/-!
# Operations that succeed

Where every question to a table is answered, an operation whose checks hold comes to its value.  The
audit log is left out of this, since operations do without it: its questions may fail.

* `Environment.Answers` — every question to a table is answered, but perhaps those to the audit log;
* `Operation.Gives` — the operation comes to this value, with nothing changed;
* `Service.get_gives`, `Service.requireManage_gives` and its like — the parts that look something up
  or check something, and `Service.read_shows`, the operation that does no more;
* `Service.store_saves` — the part that changes the table of storages.
-/

namespace Depository

/-- Of the questions to tables, only those to the audit log may fail. -/
def Environment.Answers (env : Environment) : Prop :=
  ∀ k i m, env.fault k i = some m → ∃ entry, i = .saveAudit entry

theorem Environment.answers_undisturbed (encryptionKey : String) (freshId : Nat → String)
    (nonce : Nat → Bytes) : (undisturbed encryptionKey freshId nonce).Answers :=
  fun _ _ _ h => nomatch h

theorem Environment.Answers.fault_eq_none {env : Environment} (h : env.Answers) {i : Instruction}
    (hi : ∀ entry, i ≠ .saveAudit entry) (k : Nat) : env.fault k i = none := by
  cases hfault : env.fault k i with
  | none => rfl
  | some m =>
    obtain ⟨entry, rfl⟩ := h k i m hfault
    exact absurd rfl (hi entry)

namespace Operation

variable {α β : Type} {env : Environment} {t : Tables} {n : Nat} {o : Operation α} {a : α}
  {f : α → Operation β} {R : Failure → World → Prop} {Q : β → World → Prop}

/-- The operation changes no table, takes no id and comes to the value `a`. -/
def Gives (env : Environment) (t : Tables) (n : Nat) (o : Operation α) (a : α) : Prop :=
  o.Ends env t n (fun _ _ => False) fun b w => w.At t n ∧ b = a

theorem Gives.run (h : o.Gives env t n a) {w : World} (hw : w.At t n) :
    (o.run env w).1 = .ok a ∧ (o.run env w).2.At t n := by
  rcases Ends.run h hw with ⟨b, hb, hw', rfl⟩ | ⟨e, -, hfalse⟩
  · exact ⟨hb, hw'⟩
  · exact hfalse.elim

theorem gives_pure (a : α) : (pure a : Operation α).Gives env t n a :=
  ends_pure fun _ hw => ⟨hw, rfl⟩

theorem gives_lift {outcome : Except Failure α} (h : outcome = .ok a) :
    (lift outcome).Gives env t n a := by
  rw [h]
  exact gives_pure a

theorem gives_told (text : String) : (told (.ofText text)).Gives env t n text := gives_pure text

theorem gives_require {condition : Bool} (e : Failure) (h : condition = true) :
    (require condition e).Gives env t n () := by
  rw [h]
  exact gives_pure ()

/-- What gives a value comes before anything else. -/
theorem Gives.bind (h : o.Gives env t n a) (hf : (f a).Ends env t n R Q) :
    (o >>= f).Ends env t n R Q := by
  refine Ends.bind (Ends.mono h (fun _ _ hfalse => hfalse.elim) fun _ _ hw => hw) ?_
  rintro _ w ⟨hw, rfl⟩
  rw [hw.tables, hw.ids]
  exact hf

/-- A question is answered. -/
theorem gives_request (ha : env.Answers) {i : Instruction} {a : i.Answer}
    (hi : ∀ entry, i ≠ .saveAudit entry)
    (h : ∀ w : World, w.At t n → ∃ w', env.answer w i = (.ok a, w') ∧ w'.At t n) :
    (request i).Gives env t n a := by
  refine ends_request (fun k m w _ hfault _ => ?_) fun w hw => ?_
  · cases (ha.fault_eq_none hi k).symm.trans hfault
  · obtain ⟨w', hanswer, hw'⟩ := h w hw
    rw [hanswer]
    exact ⟨hw', rfl⟩

theorem gives_log (line : LogLine) : (log line).Gives env t n () :=
  Ends.mono (Service.log_ends line) (fun _ _ h => h) fun _ _ hw => ⟨hw, rfl⟩

end Operation

namespace Service

open Operation

variable {env : Environment} {t : Tables} {n : Nat}

/-! ### Looking up and checking -/

theorem findStorage_gives (ha : env.Answers) (id : Cell) :
    (request (.findStorage id)).Gives env t n (t.find? id) := by
  refine gives_request ha (by simp) fun w hw => ⟨w, ?_, hw⟩
  rw [← hw.tables]
  rfl

/-- What is found is what its row is read as. -/
theorem get_finds (ha : env.Answers) {id : Cell} {row : Row} {s : Storage}
    (hf : t.find? id = some row) (hs : Storage.ofRow row = .ok s) :
    (get id).Gives env t n s := by
  have hload : loadOption (t.find? id) = .ok (some s) := by rw [hf, loadOption_of_ofRow hs]
  exact Gives.bind (Gives.bind (findStorage_gives ha id) (gives_lift hload)) (gives_pure _)

theorem get_gives (ha : env.Answers) {id : String} {row : Row} {r : Record}
    (hf : t.find? (.ofText id) = some row) (hr : row.Holds r) :
    (get (.ofText id)).Gives env t n r.toStorage := get_finds ha hf hr.ofRow

theorem role_gives (ha : env.Answers) (workspaceId userId : Cell) :
    (role workspaceId userId).Gives env t n (t.role workspaceId userId) := by
  refine gives_request ha (by simp) fun w hw => ⟨w, ?_, hw⟩
  rw [← hw.tables]
  rfl

theorem requireView_gives (ha : env.Answers) {workspaceId : Cell} {actor : Actor}
    (reason : PermissionReason) (h : mayView actor (t.role workspaceId actor.id) = true) :
    (requireView workspaceId actor reason).Gives env t n () :=
  Gives.bind (Gives.bind (role_gives ha _ _) (gives_pure _)) (gives_require _ h)

theorem canManage_gives (ha : env.Answers) {workspaceId : Cell} {actor : Actor} {allowed : Bool}
    (h : mayManage actor (t.role workspaceId actor.id) = .ok allowed) :
    (canManage workspaceId actor).Gives env t n allowed := by
  rw [canManage]
  split
  · next hadmin =>
    rw [mayManage, if_pos hadmin] at h
    exact Except.ok.inj h ▸ gives_pure true
  · exact Gives.bind (role_gives ha _ _) (gives_lift h)

theorem requireManage_gives (ha : env.Answers) {workspaceId : Cell} {actor : Actor}
    (reason : PermissionReason) (h : mayManage actor (t.role workspaceId actor.id) = .ok true) :
    (requireManage workspaceId actor reason).Gives env t n () :=
  Gives.bind (canManage_gives ha h) (gives_require _ rfl)

/-- A storage is read by all who may view its workspace, and by everyone if it is shared. -/
theorem read_shows (ha : env.Answers) {actor : Actor} {id : Cell} {row : Row} {s : Storage}
    {v : View} (hf : t.find? id = some row) (hs : Storage.ofRow row = .ok s)
    (hmay : s.isShared = true ∨ mayView actor (t.role s.workspaceId actor.id) = true)
    (hv : viewOf actor s = .ok v) : (read actor id).Gives env t n v := by
  refine Gives.bind (get_finds ha hf hs) ?_
  have hview : (view actor s).Gives env t n v := gives_lift hv
  by_cases hshared : s.isShared = true
  · rw [if_pos hshared]
    exact hview
  · rw [if_neg hshared]
    exact Gives.bind (requireView_gives ha _ (hmay.resolve_left hshared)) hview

theorem requireLocal_gives {cloudMode : Bool} {actor : Actor} {v : Variant}
    (h : cloudMode = true → v.backend = .localDisk → actor.isGlobalAdmin = true) :
    (requireLocal cloudMode actor (some v)).Gives env t n () := by
  refine gives_require _ ?_
  cases hadmin : actor.isGlobalAdmin with
  | true => simp
  | false =>
    cases hcloud : cloudMode with
    | false => simp
    | true =>
      have hnot : v.backend ≠ .localDisk := fun hb => by
        rw [h hcloud hb] at hadmin
        cases hadmin
      simpa using hnot

theorem requireSystem_gives {actor : Actor} {isSystem : Bool}
    (h : isSystem = true → actor.isGlobalAdmin = true) :
    (requireSystem actor (some (.bool isSystem))).Gives env t n () := by
  refine gives_require _ ?_
  cases isSystem with
  | true => rw [h rfl]; rfl
  | false => rfl

/-- Of a sound variant nothing is encrypted. -/
theorem protect_gives (ha : env.Answers) (owner : Cell) {v : Variant} (h : v.IsSound) :
    (request (.protect owner v)).Gives env t n v := by
  refine gives_request ha (by simp) fun w hw => ⟨{ w with nonces := w.nonces }, ?_, hw⟩
  show env.protect owner v w = _
  rw [Environment.protect, h.protect]

/-! ### Storing -/

/-- A record is stored. -/
theorem store_saves (ha : env.Answers) (r : Record) :
    (store r.toStorage).Ends env t n (fun _ _ => False)
      (fun s w => w.At (t.save r.toRow) n ∧ s = r.reread.toStorage) := by
  refine Gives.bind (gives_lift r.toRow_toStorage) ?_
  refine Ends.bind (S := fun row w => w.At (t.save r.toRow) n ∧ row = r.toRow) ?_ ?_
  · refine ends_request (fun k m w _ hfault _ => ?_) fun w hw => ?_
    · obtain ⟨entry, hentry⟩ := ha k _ m hfault
      cases hentry
    · have hanswer : env.answer w (.saveStorage r.toRow) = (.ok r.toRow, w.save r.toRow) := rfl
      rw [hanswer]
      exact ⟨⟨congrArg (Tables.save r.toRow) hw.tables, hw.ids⟩, rfl⟩
  · rintro _ w ⟨hw, rfl⟩
    refine Ends.mono (gives_lift r.ofRow_toRow) (fun _ _ h => h) ?_
    rintro s w' ⟨hw', rfl⟩
    exact ⟨⟨hw'.tables.trans hw.tables, hw'.ids.trans hw.ids⟩, rfl⟩

end Service

end Depository
