import Depository.Proofs.Service.Heedless
import Depository.Proofs.Service.References

/-!
# What the audit log tells of a run

So long as the audit log can be written to, a run leaves in it one entry for each storage that was
saved, deleted or transferred, in this order, and no other.  An entry is told by what is stored: by
the name that a storage has once it is saved, and by the name and the workspace that it had before
it was deleted or transferred.  And where the audit log cannot be written to, nothing but its
entries is lost.

Each move draws its ids from a source of its own, so whether one of them leaves an entry, which has
an id too, has no influence on the ids that the next one draws.

* `Request.notice?` — what the audit log is to tell of a request that was done;
* `Request.reply_notes` — what one request adds to the audit log;
* `Tables.trail`, `Tables.course` — what a run is to leave in the audit log, and what else comes of
  it;
* `Tables.audit_exact` — **a run leaves this and has no other influence**.
-/

namespace Depository

/-- The audit log never fails. -/
def Environment.Audits (env : Environment) : Prop :=
  ∀ k entry, env.fault k (.saveAudit entry) = none

namespace Tables

variable {t u : Tables} {id : Cell} {row : Row} {r : Record}

/-- The text in a column of the storage of this id; without one it is empty. -/
def textOf (t : Tables) (id : Cell) (column : String) : String :=
  ((t.find? id).bind (Row.text? column)).getD ""

theorem name_of_find? (hf : t.find? id = some row) (hr : row.ReadAs r) :
    t.textOf id "name" = r.name := by
  rw [textOf, hf, Option.bind_some, Row.text?, hr.name]
  rfl

theorem workspaceId_of_find? (hf : t.find? id = some row) (hr : row.ReadAs r) :
    t.textOf id "workspaceId" = r.workspaceId := by
  rw [textOf, hf, Option.bind_some, Row.text?, hr.workspaceId]
  rfl

/-- Nothing was changed in the audit log but that this entry, if there is one, was added to it. -/
def Gains (t after : Tables) (told : Option AuditEntry) : Prop :=
  ∃ rows, after.audit = t.audit ++ rows ∧ List.Forall₂ Row.Tells rows told.toList

theorem gains_none (h : u.audit = t.audit) : t.Gains u none :=
  ⟨[], by rw [h, List.append_nil], .nil⟩

end Tables

/-- Where the audit log never fails, what is noted is gained. -/
theorem Service.Noted.gains {env : Environment} {t u after : Tables} {entry : AuditEntry}
    (h : Noted env u entry after) (ha : env.Audits) (hu : u.IsLegible)
    (haudit : u.audit = t.audit) : after.IsLegible ∧ t.Gains after (some entry) := by
  rcases h with ⟨-, k, row, m, hfault⟩ | ⟨row, rfl, htells⟩
  · rw [ha] at hfault
    cases hfault
  · exact ⟨hu.of_storages rfl, [row], congrArg (· ++ [row]) haudit, .cons htells .nil⟩

/-! ### Operations that put no row into a table -/

namespace Operation

variable {α : Type} {o : Operation α} {env : Environment} {t : Tables} {n : Nat}

theorem perform_putsNothing (hq : env.IsQuiet) (w : World) {i : Instruction}
    (hi : i.PutsNothing) :
    (env.perform w i).2.tables.storages ⊆ w.tables.storages ∧
      (env.perform w i).2.tables.audit = w.tables.audit := by
  have hkept : ∀ {t : Tables}, t = w.tables →
      t.storages ⊆ w.tables.storages ∧ t.audit = w.tables.audit := by
    rintro t rfl
    exact ⟨List.Subset.refl _, rfl⟩
  rw [Environment.perform]
  cases env.faultOf w i with
  | some message => exact hkept rfl
  | none =>
    cases i with
    | findStorage | listStorages | findRole | findDatabases | drawId | log => exact hkept rfl
    | deleteStorage id => exact ⟨List.filter_subset_self _, rfl⟩
    | protect owner v => exact hkept (env.tables_protect owner v _)
    | probe owner v => exact hkept (hq _ _)
    | saveStorage | saveAudit => exact hi.elim

/-- **An operation that puts no row into a table** adds neither a storage nor an entry of the audit
log. -/
theorem Asks.ends_putsNothing (h : o.Asks Instruction.PutsNothing) (hq : env.IsQuiet) :
    o.Ends env t n (fun _ w => w.tables.storages ⊆ t.storages ∧ w.tables.audit = t.audit)
      (fun _ w => w.tables.storages ⊆ t.storages ∧ w.tables.audit = t.audit) := by
  refine h.ends_tables (R := fun t u => u.storages ⊆ t.storages ∧ u.audit = t.audit)
    (fun t => ⟨List.Subset.refl _, rfl⟩) ?_ fun w _ hi => perform_putsNothing hq w hi
  rintro t u v ⟨hsubset, haudit⟩ ⟨hsubset', haudit'⟩
  exact ⟨List.Subset.trans hsubset' hsubset, haudit'.trans haudit⟩

end Operation

/-! ### One request -/

namespace Request

open Operation Service

/-- What the audit log is to tell of a request that came to a reply, between the tables before it
and after it: of what was saved, as it is stored now, and of what was deleted or transferred, as it
was stored before. -/
def notice? (t after : Tables) : Request → Reply → Option AuditEntry
  | save actor _ s, .view v =>
    some ⟨s.notice ++ after.textOf v.id "name", actor.id,
      .ofText (after.textOf v.id "workspaceId")⟩
  | delete actor id, _ =>
    some ⟨"Storage deleted: " ++ t.textOf (.ofText id) "name", actor.id,
      .ofText (t.textOf (.ofText id) "workspaceId")⟩
  | transfer actor id target _, _ =>
    some ⟨"Storage transferred: " ++ t.textOf (.ofText id) "name" ++ " from workspace " ++
      t.textOf (.ofText id) "workspaceId" ++ " to workspace " ++ target, actor.id, .ofText target⟩
  | _, _ => none

variable {env : Environment} {t : Tables} {n : Nat}

theorem notice?_of_putsNothing {request : Request} (h : request.PutsNothing) (after : Tables)
    (reply : Reply) : request.notice? t after reply = none := by
  cases request <;> first | exact h.elim | rfl

/-- **What one request adds to the audit log**: the entry of what was done, and nothing when it
failed.  The rows stay ones that can be read. -/
theorem reply_notes (h : t.IsLegible) (hq : env.IsQuiet) (ha : env.Audits) (cloudMode : Bool)
    (request : Request) :
    (request.reply cloudMode).Ends env t n
      (fun _ w => w.tables.IsLegible ∧ t.Gains w.tables none)
      (fun reply w => w.tables.IsLegible ∧
        t.Gains w.tables (request.notice? t w.tables reply)) := by
  have hunwritten : ∀ {w : World}, w.tables.storages ⊆ t.storages ∧ w.tables.audit = t.audit →
      w.tables.IsLegible ∧ t.Gains w.tables none := fun ⟨hsubset, haudit⟩ =>
    ⟨fun row hrow => h row (hsubset hrow), Tables.gains_none haudit⟩
  have hsame : ∀ {w : World}, w.tables = t → w.tables.IsLegible ∧ t.Gains w.tables none :=
    fun hw => hunwritten (by rw [hw]; exact ⟨List.Subset.refl _, rfl⟩)
  cases request with
  | save actor workspaceId s =>
    refine Ends.bind (Ends.mono (save_notes h cloudMode actor workspaceId s)
      (fun _ _ => hsame) fun _ _ hw => hw) ?_
    rintro v w ⟨-, r, -, rfl, hview, hnoted⟩
    refine ends_pure fun w' hw' => ?_
    -- the storage is found under the id of the view, as it was saved
    obtain ⟨shown, hshown, hid⟩ := viewOf_toStorage actor r.reread
    rw [Except.ok.inj (hshown.symm.trans hview)] at hid
    obtain ⟨row, hfound, hread⟩ := Tables.find?_of_save t r
    obtain ⟨audit, htables⟩ := hnoted.withAudit
    have hstored : w.tables.find? v.id = some row := by
      rw [htables, hid]
      exact hfound
    rw [hw'.tables, notice?, Tables.name_of_find? hstored hread,
      Tables.workspaceId_of_find? hstored hread]
    exact hnoted.gains ha (h.save r) rfl
  | delete actor id =>
    refine Ends.bind (Ends.mono (delete_notes h actor id) (fun _ _ => hsame) fun _ _ hw => hw) ?_
    rintro _ w ⟨row, r, hfound, hread, -, -, hnoted⟩
    refine ends_pure fun w' hw' => ?_
    rw [hw'.tables, notice?, Tables.name_of_find? hfound hread,
      Tables.workspaceId_of_find? hfound hread]
    exact hnoted.gains ha (h.filter _) rfl
  | transfer actor id target single =>
    refine Ends.bind (Ends.mono (transfer_notes h actor id target _) (fun _ _ => hsame)
      fun _ _ hw => hw) ?_
    rintro _ w ⟨row, r, hfound, hread, -, -, hnoted⟩
    refine ends_pure fun w' hw' => ?_
    rw [hw'.tables, notice?, Tables.name_of_find? hfound hread,
      Tables.workspaceId_of_find? hfound hread]
    exact hnoted.gains ha (h.save { r with workspaceId := target }) rfl
  | test actor id =>
    have hsaved : ∀ {w : World}, SavedOne t w.tables →
        w.tables.IsLegible ∧ t.Gains w.tables none := by
      rintro w (hw | ⟨r, hw⟩)
      · exact hsame hw
      · rw [hw]
        exact ⟨h.save r, Tables.gains_none rfl⟩
    refine Ends.bind (Ends.mono (testStored_saves h hq actor id) (fun _ _ hw => hsaved hw.1)
      fun _ _ hw => hsaved hw.1) fun _ w hw => ends_pure fun w' hw' => ?_
    rw [hw'.tables]
    exact hw
  | testSubmitted | read | readAll | clear =>
    refine Ends.mono (Asks.ends_putsNothing (reply_putsNothing cloudMode ?_) hq)
      (fun _ _ => hunwritten) fun reply w => ?_
    · trivial
    · rw [notice?_of_putsNothing]
      · exact hunwritten
      · trivial

end Request

/-! ### Runs -/

/-- The move where the audit log never fails. -/
def Move.audited (m : Move) : Move := { m with env := m.env.audited }

namespace Tables

variable {t : Tables} {m : Move} {ms : List Move}

/-- What comes of a move. -/
def outcome (t : Tables) (m : Move) : Except Failure Request.Reply :=
  ((m.request.reply m.cloudMode).run m.env (.start t)).1

/-- What a run is to leave in the audit log: what each of its moves that did not fail is to tell. -/
def trail (t : Tables) : List Move → List AuditEntry
  | [] => []
  | m :: ms =>
    ((t.outcome m).toOption.bind (m.request.notice? t (t.after m))).toList ++ (t.after m).trail ms

/-- What comes of each move of a run, and the storages after it. -/
def course (t : Tables) : List Move → List (Except Failure Request.Reply × List Row)
  | [] => []
  | m :: ms => (t.outcome m, (t.after m).storages) :: (t.after m).course ms

theorem after_eq (t : Tables) (m : Move) :
    t.after m = ((m.request.reply m.cloudMode).run m.env (.start t)).2.tables := by
  rw [after, Request.program_eq, Operation.run_bind]
  rcases (m.request.reply m.cloudMode).run m.env (.start t) with ⟨e | reply, w⟩ <;> rfl

/-- What one move adds to the audit log. -/
theorem after_gains (h : t.IsLegible) (hq : m.env.IsQuiet) (ha : m.env.Audits) :
    (t.after m).IsLegible ∧
      t.Gains (t.after m) ((t.outcome m).toOption.bind (m.request.notice? t (t.after m))) := by
  have hends := Request.reply_notes h hq ha m.cloudMode m.request _ (World.start t).at_self
  rw [after_eq, outcome]
  rcases ho : (m.request.reply m.cloudMode).run m.env (.start t) with ⟨e | reply, w⟩ <;>
    rw [ho] at hends <;> exact hends

/-- What the moves of a run add to the audit log, one after another. -/
theorem trail_told (h : t.IsLegible) (hq : ∀ m ∈ ms, m.env.IsQuiet) (ha : ∀ m ∈ ms, m.env.Audits) :
    ∃ rows, (ms.foldl after t).audit = t.audit ++ rows ∧
      List.Forall₂ Row.Tells rows (t.trail ms) := by
  induction ms generalizing t with
  | nil => exact ⟨[], (List.append_nil _).symm, .nil⟩
  | cons m ms ih =>
    rw [List.forall_mem_cons] at hq ha
    obtain ⟨hlegible, rows, haudit, htells⟩ := after_gains h hq.1 ha.1
    obtain ⟨rest, hrest, htells'⟩ := ih hlegible hq.2 ha.2
    refine ⟨rows ++ rest, ?_, List.rel_append htells htells'⟩
    rw [List.foldl_cons, hrest, haudit, List.append_assoc]

/-- A move comes to the same where the audit log is another one and never fails. -/
theorem after_audited (hq : m.env.IsQuiet) (t : Tables) (audit : List Row) :
    (t.withAudit audit).outcome m.audited = t.outcome m ∧
      ∃ audit', (t.withAudit audit).after m.audited = (t.after m).withAudit audit' := by
  rw [after_eq, after_eq]
  exact (m.request.reply_heedless m.cloudMode).run_audited hq (.start t) audit

/-- A run takes the same course where the audit log is another one and never fails. -/
theorem course_audited (hq : ∀ m ∈ ms, m.env.IsQuiet) (t : Tables) (audit : List Row) :
    (t.withAudit audit).course (ms.map Move.audited) = t.course ms := by
  induction ms generalizing t audit with
  | nil => rfl
  | cons m ms ih =>
    rw [List.forall_mem_cons] at hq
    obtain ⟨houtcome, audit', hafter⟩ := after_audited hq.1 t audit
    rw [List.map_cons, course, course, houtcome, hafter, ih hq.2]
    rfl

/-- **The audit log is exact and has no influence.**  Let requests run one after another from normal
tables, whoever asks for what and whatever else fails.  While the audit log can be written to, the
entries that are added to it are, in order, one for each storage that was saved, deleted or
transferred, with its name, the actor and its workspace, and no other.  And whichever of the
questions to the audit log fail, every request comes to the same and leaves the same storages as if
none of them had failed. -/
theorem audit_exact (h : t.IsNormal) (hq : ∀ m ∈ ms, m.env.IsQuiet) :
    ((∀ m ∈ ms, m.env.Audits) →
      ∃ rows, (ms.foldl after t).audit = t.audit ++ rows ∧
        List.Forall₂ Row.Tells rows (t.trail ms)) ∧
    t.course (ms.map Move.audited) = t.course ms :=
  ⟨trail_told h.isLegible hq, course_audited hq t t.audit⟩

/-- A global administrator moves a storage, reads it and deletes it, and may not read it again; once
while the audit log can be written to, and once while it cannot. -/
theorem audit_exact_moved :
    let admin : Actor := ⟨.ofText "u", .admin⟩
    let disk : Record := ⟨"a", "w", "disk", false, none, ⟨.localDisk, {}⟩⟩
    let t : Tables := ⟨[disk.toRow], [], [], []⟩
    let requests := [Request.transfer admin "a" "x" none, .read admin "a", .delete admin "a",
      .read admin "a"]
    let ms := requests.map Move.undisturbed
    let full (m : Move) : Move := { m with env := { m.env with fault := fun _ i =>
      match i with
      | .saveAudit _ => some "full"
      | _ => none } }
    (∃ rows, (ms.foldl after t).audit = rows ∧ List.Forall₂ Row.Tells rows (t.trail ms)) ∧
      (t.trail ms).map AuditEntry.message =
        ["Storage transferred: disk from workspace w to workspace x", "Storage deleted: disk"] ∧
      ((ms.map full).foldl after t).audit.length = 0 ∧ t.course ms = t.course (ms.map full) := by
  intro admin disk t requests ms full
  have hnormal : t.IsNormal := by
    refine ⟨fun row hrow => ⟨disk, ?_⟩, List.nodup_singleton _⟩
    obtain rfl := List.mem_singleton.1 hrow
    exact Row.holds_toRow (Variant.isNormal_iff.2 rfl)
  have hquiet : ∀ m ∈ ms, m.env.IsQuiet :=
    List.forall_mem_map.2 fun _ _ => Environment.isQuiet_undisturbed _ _ _
  have haudits : ∀ m ∈ ms, m.env.Audits := List.forall_mem_map.2 fun _ _ _ _ => rfl
  have hquiet' : ∀ m ∈ ms.map full, m.env.IsQuiet := List.forall_mem_map.2 hquiet
  have hworking : (ms.map full).map Move.audited = ms := by
    simp only [ms, List.map_map]
    refine List.map_congr_left fun request _ => ?_
    have hfault : (full (.undisturbed request)).audited.env.fault = fun _ _ => none := by
      funext _ i
      cases i <;> rfl
    let calm := Move.undisturbed request
    exact congrArg (fun fault => { calm with env := { calm.env with fault } }) hfault
  refine ⟨?_, by decide +kernel, by decide +kernel, ?_⟩
  · exact (audit_exact hnormal hquiet).1 haudits
  · have hcourse := (audit_exact hnormal hquiet').2
    rwa [hworking] at hcourse

end Tables

end Depository
