import Depository.Proofs.Service.Request

/-!
# Who may change what

A request of an actor changes at most one row of the table of storages and no other table but the
audit log (`Tables.ChangesRow`).  Where more of the row changes than what it says of its last
connection test, the actor is a global administrator, or the storage is his to manage: it is no
system storage before or after, he has a managing role in its workspace before and after, and in a
shared service it does not come to be kept on local disk (`Authorised`).

* `Tables.ChangesRow` — at most one row differs, and this is said of it;
* `Request.authorised` — **every change is authorised**, whichever questions to tables fail.
-/

namespace Depository

/-! ### Tables that differ in one row -/

namespace Tables

/-- The tables `after` are the tables `t` but for the audit log and one row of storages, which was
`old` and is `new`; none stands for a row that is not there. -/
def ChangesRow (t after : Tables) (P : Option Row → Option Row → Prop) : Prop :=
  after.memberships = t.memberships ∧ after.attachments = t.attachments ∧
    ∃ front back : List Row, ∃ old new : Option Row,
      t.storages = front ++ old.toList ++ back ∧ after.storages = front ++ new.toList ++ back ∧
        (∀ a ∈ old, ∀ b ∈ new, b.get? "id" = a.get? "id") ∧ P old new

variable {t : Tables} {row : Row} {r : Record} {P : Option Row → Option Row → Prop}

theorem changesRow_self (hP : P none none) : t.ChangesRow t P :=
  ⟨rfl, rfl, t.storages, [], none, none, by simp, by simp, by simp, hP⟩

theorem changesRow_save_new (hf : t.find? (.ofText r.id) = none) (audit : List Row)
    (hP : P none (some r.toRow)) : t.ChangesRow ((t.save r.toRow).withAudit audit) P := by
  refine ⟨rfl, rfl, t.storages, [], none, some r.toRow, by simp, ?_, by simp, hP⟩
  rw [storages_withAudit, storages_save_new hf]
  simp

theorem changesRow_save_over (hf : t.find? (.ofText r.id) = some row) (audit : List Row)
    (hP : P (some row) (some (row.update r.toRow))) :
    t.ChangesRow ((t.save r.toRow).withAudit audit) P := by
  obtain ⟨front, back, hs, hsave⟩ := storages_save_over hf
  refine ⟨rfl, rfl, front, back, some row, some (row.update r.toRow), ?_, ?_, ?_, hP⟩
  · simpa using hs
  · simpa using hsave
  · simp only [Option.mem_some_iff]
    rintro _ rfl _ rfl
    rw [Row.get?_update, (Row.hasId_iff.1 (hasId_of_find? hf)).1]
    rfl

theorem changesRow_delete (h : t.IsNormal) {id : Cell} (hf : t.find? id = some row)
    (audit : List Row) (hP : P (some row) none) :
    t.ChangesRow ((t.delete id).withAudit audit) P := by
  obtain ⟨front, back, hs, hdelete⟩ := h.storages_delete hf
  refine ⟨rfl, rfl, front, back, some row, none, ?_, ?_, by simp, hP⟩
  · simpa using hs
  · simpa using hdelete

/-- The actor's role in the workspace is one that manages storages. -/
def Manages (t : Tables) (actor : Actor) (workspaceId : Cell) : Prop :=
  ∃ name ∈ ["MEMBER", "ADMIN", "OWNER"],
    (t.role workspaceId actor.id).plainText? = some name

/-- The actor has a role in the workspace, or needs none. -/
def Views (t : Tables) (actor : Actor) (workspaceId : Cell) : Prop :=
  (t.role workspaceId actor.id).isSome = true ∨ actor.isGlobalAdmin = true

end Tables

/-! ### Rights -/

theorem managesByName_iff {name : String} :
    managesByName name = true ↔ name ∈ ["MEMBER", "ADMIN", "OWNER"] := by
  by_cases h : name ∈ ["VIEWER", "MEMBER", "ADMIN", "OWNER"]
  · simp only [List.mem_cons, List.not_mem_nil, or_false] at h
    rcases h with rfl | rfl | rfl | rfl <;> decide
  · simp only [List.mem_cons, List.not_mem_nil, or_false, not_or] at h ⊢
    -- any other name is that of no role
    have hlookup : WorkspaceRole.table.lookup name = none := by
      rw [List.lookup_eq_none_iff]
      simp [WorkspaceRole.table, WorkspaceRole.name, h]
    simp [managesByName, hlookup, h]

section Rights

variable {t : Tables} {actor : Actor} {workspaceId : Cell}

/-- Whoever may manage storages and is no global administrator has a managing role. -/
theorem manages_of_mayManage (hadmin : actor.isGlobalAdmin = false)
    (h : mayManage actor (t.role workspaceId actor.id) = .ok true) :
    t.Manages actor workspaceId := by
  rw [mayManage, hadmin, if_neg (by simp), managesAs] at h
  by_cases htruthy : (t.role workspaceId actor.id).isTruthy = true
  · rw [if_pos htruthy] at h
    cases hname : (t.role workspaceId actor.id).plainText? with
    | none => simp [hname] at h
    | some name =>
      simp only [hname, Except.ok.injEq] at h
      exact ⟨name, managesByName_iff.1 h, hname⟩
  · rw [if_neg htruthy] at h
    cases h

/-- What only global administrators may do is not done by another actor. -/
theorem eq_false_of_admin {done : Bool} (hadmin : actor.isGlobalAdmin = false)
    (h : done = true → actor.isGlobalAdmin = true) : done = false := by
  rw [Bool.eq_false_iff]
  intro hdone
  rw [h hdone] at hadmin
  cases hadmin

/-- Whoever may manage storages may view them. -/
theorem views_of_mayManage (h : mayManage actor (t.role workspaceId actor.id) = .ok true) :
    t.Views actor workspaceId := by
  by_cases hadmin : actor.isGlobalAdmin = true
  · exact .inr hadmin
  rw [mayManage, if_neg hadmin, managesAs] at h
  cases hrole : t.role workspaceId actor.id with
  | none =>
    rw [hrole] at h
    simp [Cell.isTruthy] at h
  | some v => exact .inl (by rw [hrole]; rfl)

theorem views_of_mayView (h : mayView actor (t.role workspaceId actor.id) = true) :
    t.Views actor workspaceId := (Bool.or_eq_true _ _).mp h

end Rights

/-! ### Changes that are authorised -/

/-- Only what the row says of the last connection test differs. -/
def OnlyTested (old new : Option Row) : Prop :=
  ∃ a ∈ old, ∃ b ∈ new, ∀ column, column ≠ "lastSaveError" → b.get? column = a.get? column

/-- The row is of no system storage, and the actor manages the storages of its workspace. -/
structure OwnRow (t : Tables) (actor : Actor) (row : Row) : Prop where
  notSystem : row.get? "isSystem" = some (.bool false)
  manages : t.Manages actor (row.get? "workspaceId")

/-- The change of a row is one that an actor may make who is no global administrator. -/
structure Authorised (cloudMode : Bool) (t : Tables) (actor : Actor) (old new : Option Row) :
    Prop where
  before : ∀ row ∈ old, OwnRow t actor row
  after : ∀ row ∈ new, OwnRow t actor row
  localDisk : cloudMode = true → ∀ row ∈ new, row.get? "type" = .ofText "LOCAL" →
    ∃ was ∈ old, was.get? "type" = .ofText "LOCAL" ∧
      ∀ column, column ≠ "workspaceId" → row.get? column = was.get? column

/-- The change of a row, if it is one, was for the actor to make: to record a connection test he
needs to view the workspace of the row, and for all else he is a global administrator or the change
is authorised. -/
def ChangeAllowed (cloudMode : Bool) (t : Tables) (actor : Actor) (old new : Option Row) : Prop :=
  old ≠ new →
    (OnlyTested old new → ∀ row ∈ old, t.Views actor (row.get? "workspaceId")) ∧
      (¬OnlyTested old new →
        actor.isGlobalAdmin = true ∨ Authorised cloudMode t actor old new)

namespace ChangeAllowed

variable {cloudMode : Bool} {t : Tables} {actor : Actor} {env : Environment} {n : Nat}
  {workspaceId : String} {s : Submission} {row : Row} {old r : Record}

/-- A change that is more than the record of a test is allowed to whoever may view the row and is a
global administrator or authorised. -/
theorem of_authorised {old new : Option Row}
    (hview : ∀ row ∈ old, t.Views actor (row.get? "workspaceId"))
    (h : actor.isGlobalAdmin = false → Authorised cloudMode t actor old new) :
    ChangeAllowed cloudMode t actor old new := by
  refine fun _ => ⟨fun _ => hview, fun _ => ?_⟩
  cases hadmin : actor.isGlobalAdmin with
  | true => exact .inl rfl
  | false => exact .inr (h hadmin)

/-- What a row has in a column of the record that was put over it. -/
theorem get?_update_toRow {column : String} {c : Cell}
    (hc : Members.get? column r.toRow.columns = some c) :
    (row.update r.toRow).get? column = c := by
  rw [Row.get?_update, hc]

/-- A new row is allowed to whoever may save it. -/
theorem of_created (hmay : Service.MaySave cloudMode actor workspaceId s t)
    (h : Service.Created env n workspaceId s r) :
    ChangeAllowed cloudMode t actor none (some r.toRow) := by
  refine of_authorised (by simp) fun hadmin => ?_
  have hnot : s.isSystem = false := eq_false_of_admin hadmin hmay.system
  have hmanages := manages_of_mayManage hadmin hmay.manage
  refine ⟨by simp, ?_, ?_⟩
  · simp only [Option.mem_some_iff]
    rintro _ rfl
    rw [h.record]
    exact ⟨congrArg (fun b => some (Json.bool b)) hnot, hmanages⟩
  · simp only [Option.mem_some_iff]
    rintro hcloud _ rfl htype
    have hbackend : s.variant.backend = .localDisk := by
      rw [← h.protected_.backend]
      exact Variant.backend_of_typeName htype
    exact absurd (hmay.localDisk hcloud hbackend) (by simp [hadmin])

/-- An update of a row is allowed to whoever may save it. -/
theorem of_updated (hmay : Service.MaySave cloudMode actor workspaceId s t) (hrow : row.Holds old)
    (h : Service.Updated env t workspaceId s old r) :
    ChangeAllowed cloudMode t actor (some row) (some (row.update r.toRow)) := by
  have howner : row.get? "workspaceId" = .ofText workspaceId := by rw [hrow.workspaceId, h.owned]
  refine of_authorised ?_ fun hadmin => ?_
  · simp only [Option.mem_some_iff]
    rintro _ rfl
    rw [howner]
    exact views_of_mayManage hmay.manage
  -- a system storage is neither made by an update nor updated, but by an administrator
  have hnot : s.isSystem = false := eq_false_of_admin hadmin hmay.system
  have hwas : old.isSystem = false := by
    rw [Bool.eq_false_iff]
    exact fun hs => absurd (h.stays hs) (by simp [hnot])
  have hmanages := manages_of_mayManage hadmin hmay.manage
  refine ⟨?_, ?_, ?_⟩
  · simp only [Option.mem_some_iff]
    rintro _ rfl
    exact ⟨by rw [hrow.isSystem, hwas], by rwa [howner]⟩
  · simp only [Option.mem_some_iff]
    rintro _ rfl
    have hsystem : r.isSystem = s.isSystem := by rw [h.record]
    have hworkspace : r.workspaceId = workspaceId := by rw [h.record, ← h.owned]
    refine ⟨?_, ?_⟩
    · rw [get?_update_toRow rfl, hsystem, hnot]
    · rwa [get?_update_toRow rfl, hworkspace]
  · simp only [Option.mem_some_iff]
    rintro hcloud _ rfl htype
    rw [get?_update_toRow rfl] at htype
    -- an update that ends on local disk was submitted for it
    have hbackend : s.variant.backend = .localDisk := by
      rw [← Variant.backend_merge old.variant s.variant, ← h.protected_.backend]
      exact Variant.backend_of_typeName htype
    exact absurd (hmay.localDisk hcloud hbackend) (by simp [hadmin])

/-- The removal of a row is allowed to whoever may delete it. -/
theorem of_deleted (hrow : row.Holds r) (h : Service.MayDelete actor t r) :
    ChangeAllowed cloudMode t actor (some row) none := by
  refine of_authorised ?_ fun hadmin => ?_
  · simp only [Option.mem_some_iff]
    rintro _ rfl
    rw [hrow.workspaceId]
    exact views_of_mayManage h.manage
  have hnot : r.isSystem = false := eq_false_of_admin hadmin h.system
  have hmanages := manages_of_mayManage hadmin h.manage
  refine ⟨?_, by simp, by simp⟩
  simp only [Option.mem_some_iff]
  rintro _ rfl
  exact ⟨by rw [hrow.isSystem, hnot], by rwa [hrow.workspaceId]⟩

/-- A transfer is allowed to whoever may manage both workspaces; it leaves local disk where it
was. -/
theorem of_transferred {target : String} {single : Cell} (hrow : row.Holds r)
    (h : Service.MayTransfer actor t target single r) :
    ChangeAllowed cloudMode t actor (some row)
      (some (row.update { r with workspaceId := target }.toRow)) := by
  refine of_authorised ?_ fun hadmin => ?_
  · simp only [Option.mem_some_iff]
    rintro _ rfl
    rw [hrow.workspaceId]
    exact views_of_mayManage h.manageSource
  have hsource := manages_of_mayManage hadmin h.manageSource
  have htarget := manages_of_mayManage hadmin h.manageTarget
  have hother : ∀ column, column ≠ "workspaceId" →
      (row.update { r with workspaceId := target }.toRow).get? column = row.get? column := by
    intro column hcolumn
    refine hrow.get?_update ?_
    simp [Record.toRow, Members.get?, Ne.symm hcolumn]
  refine ⟨?_, ?_, ?_⟩
  · simp only [Option.mem_some_iff]
    rintro _ rfl
    exact ⟨by rw [hrow.isSystem, h.notSystem], by rwa [hrow.workspaceId]⟩
  · simp only [Option.mem_some_iff]
    rintro _ rfl
    refine ⟨?_, ?_⟩
    · rw [hother "isSystem" (by decide), hrow.isSystem, h.notSystem]
    · rwa [get?_update_toRow rfl]
  · simp only [Option.mem_some_iff]
    rintro - _ rfl htype
    rw [hother "type" (by decide)] at htype
    exact ⟨row, rfl, htype, hother⟩

/-- The record of a connection test is allowed to whoever may view the workspace. -/
theorem of_tested {error : Option String} (hrow : row.Holds r)
    (hview : mayView actor (t.role (.ofText r.workspaceId) actor.id) = true) :
    ChangeAllowed cloudMode t actor (some row)
      (some (row.update { r with lastSaveError := error }.toRow)) := by
  refine fun _ => ⟨fun _ => ?_, fun hmore => absurd ?_ hmore⟩
  · simp only [Option.mem_some_iff]
    rintro _ rfl
    rw [hrow.workspaceId]
    exact views_of_mayView hview
  · refine ⟨row, rfl, _, rfl, fun column hcolumn => hrow.get?_update ?_⟩
    simp [Record.toRow, Members.get?, Ne.symm hcolumn]

end ChangeAllowed

/-! ### Every request -/

namespace Request

variable {env : Environment} {t : Tables} {cloudMode : Bool} {actor : Actor}

theorem changesRow_same :
    t.ChangesRow t (ChangeAllowed cloudMode t actor) :=
  Tables.changesRow_self fun h => absurd rfl h

theorem changesRow_tested {id : String} {after : Tables} (h : Service.Tested actor t id after) :
    t.ChangesRow after (ChangeAllowed cloudMode t actor) := by
  rcases h with rfl | ⟨row, r, error, hfound, hrow, rfl, hview, rfl⟩
  · exact changesRow_same
  · exact Tables.changesRow_save_over (r := { r with lastSaveError := error }) hfound t.audit
      (.of_tested hrow hview)

theorem changesRow_of_failed {request : Request} {after : Tables}
    (ha : request.actor? = some actor) (h : request.Failed env t after) :
    t.ChangesRow after (ChangeAllowed cloudMode t actor) := by
  cases request with
  | test other id =>
    obtain rfl := Option.some.inj ha
    exact changesRow_tested h
  | clear => cases ha
  | _ =>
    obtain rfl := h
    exact changesRow_same

theorem changesRow_of_done {n : Nat} {request : Request} {after : Tables} (hn : t.IsNormal)
    (hfresh : request.IsCreation → t.find? (.ofText (env.freshId n)) = none)
    (ha : request.actor? = some actor)
    (h : request.Done env cloudMode t n after) :
    t.ChangesRow after (ChangeAllowed cloudMode t actor) := by
  cases request with
  | save other workspaceId s =>
    obtain rfl := Option.some.inj ha
    obtain ⟨hmay, r, audit, hcreated | ⟨old, hupdated⟩, rfl⟩ := h
    · have hid : r.id = env.freshId n := by rw [hcreated.record]
      have hnew : t.find? (.ofText r.id) = none := hid ▸ hfresh hcreated.asked
      exact Tables.changesRow_save_new hnew audit (.of_created hmay hcreated)
    · obtain ⟨row, hfound, hrow⟩ := hupdated.found
      have hid : r.id = old.id := by rw [hupdated.record]
      exact Tables.changesRow_save_over (hid ▸ hfound) audit (.of_updated hmay hrow hupdated)
  | delete other id =>
    obtain rfl := Option.some.inj ha
    obtain ⟨r, audit, rfl, hmay, rfl⟩ := h
    obtain ⟨row, hfound, hrow⟩ := hmay.found
    exact Tables.changesRow_delete hn hfound audit (.of_deleted hrow hmay)
  | transfer other id target single =>
    obtain rfl := Option.some.inj ha
    obtain ⟨r, audit, rfl, hmay, rfl⟩ := h
    obtain ⟨row, hfound, hrow⟩ := hmay.found
    exact Tables.changesRow_save_over (r := { r with workspaceId := target }) hfound audit
      (.of_transferred hrow hmay)
  | test other id =>
    obtain rfl := Option.some.inj ha
    exact changesRow_tested h
  | testSubmitted | read | readAll =>
    obtain rfl := h
    exact changesRow_same
  | clear => cases ha

/-- **Every change is authorised.**  Of a normal table, a request of an actor changes at most one
row, and only in a way that is for the actor to make, whichever questions to tables fail; the id
that is drawn for a new storage is one that no row has. -/
theorem authorised (hn : t.IsNormal) (hq : env.IsQuiet) (cloudMode : Bool) {request : Request}
    (ha : request.actor? = some actor)
    (hfresh : request.IsCreation → t.find? (.ofText (env.freshId 0)) = none) :
    t.ChangesRow ((request.program cloudMode).run env (.start t)).2.tables
      (ChangeAllowed cloudMode t actor) := by
  have hstart : (World.start t).At t 0 := ⟨rfl, rfl⟩
  rcases (request.program_ends hn hq cloudMode).run hstart with
    ⟨a, -, hdone⟩ | ⟨e, -, hfailed⟩
  · exact changesRow_of_done hn hfresh ha hdone
  · exact changesRow_of_failed ha hfailed

/-- A member of a workspace who deletes a storage on local disk there, in a shared service. -/
theorem authorised_deletion :
    let member : Actor := ⟨.ofText "u", .member⟩
    let r : Record := ⟨"s", "w", "disk", false, none, ⟨.localDisk, {}⟩⟩
    let t : Tables :=
      { storages := [r.toRow], attachments := [], audit := []
        memberships := [⟨[("userId", .ofText "u"), ("workspaceId", .ofText "w"),
          ("role", .ofText "MEMBER")]⟩] }
    let env := Environment.undisturbed "key" (fun _ => "a") fun _ => []
    let after := ((Request.delete member "s").program true).run env (.start t)
    t.ChangesRow after.2.tables (ChangeAllowed true t member) ∧ after.2.tables.storages = [] := by
  intro member r t env after
  have hquiet : env.IsQuiet := Environment.isQuiet_undisturbed "key" (fun _ => "a") fun _ => []
  refine ⟨authorised ⟨?_, by simp [t]⟩ hquiet true rfl (fun h => h.elim), rfl⟩
  intro row hrow
  obtain rfl := List.mem_singleton.1 hrow
  exact ⟨r, Row.holds_toRow (Variant.isNormal_iff.2 rfl)⟩

end Request

end Depository
