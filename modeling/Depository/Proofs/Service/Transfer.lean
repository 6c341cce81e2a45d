import Depository.Proofs.Service.Authorisation
import Depository.Proofs.Service.Conditions
import Depository.Proofs.Service.Recording
import Depository.Proofs.Service.References

/-!
# When a storage moves to another workspace

A storage is moved where it is there and no system storage, where the actor manages the workspace
that it is in and the one that it goes to, and where no database is left behind that backs up to it.
What is moved is one cell of its row.  The workspace has no part in how secrets are encrypted, so
they can be decrypted afterwards as before.

* `Tables.MayManage` — the right to manage the storages of a workspace;
* `Service.detachment`, `Service.transferConditions` — what is checked, in its order;
* `Row.movedTo` — the row in another workspace, and `Row.revealed_movedTo`, its secrets;
* `Service.transfer_exact` — **when a storage is moved, and what comes of it**.
-/

namespace Depository

/-! ### Rights and databases -/

namespace Tables

variable {t : Tables} {actor : Actor} {workspaceId : Cell}

/-- The actor may manage the storages of the workspace. -/
def MayManage (t : Tables) (actor : Actor) (workspaceId : Cell) : Prop :=
  actor.isGlobalAdmin = true ∨ t.Manages actor workspaceId

theorem mayManage_iff (h : t.HasRoles) :
    mayManage actor (t.role workspaceId actor.id) = .ok true ↔ t.MayManage actor workspaceId := by
  cases hadmin : actor.isGlobalAdmin with
  | true => simp [mayManage, MayManage, hadmin]
  | false =>
    rw [MayManage, hadmin, or_iff_right Bool.false_ne_true]
    refine ⟨manages_of_mayManage hadmin, ?_⟩
    rintro ⟨name, hname, hrole⟩
    rw [mayManage, hadmin, if_neg Bool.false_ne_true, managesAs]
    obtain hnone | ⟨text, htext⟩ := h.role_cases workspaceId actor.id
    · rw [hnone] at hrole
      obtain rfl := Option.some.inj hrole
      exact absurd hname (by decide)
    · rw [htext] at hrole ⊢
      obtain rfl : text = name := Option.some.inj hrole
      have hne : text ≠ "" := by
        rintro rfl
        exact absurd hname (by decide)
      rw [if_pos (Cell.isTruthy_ofText.2 hne)]
      exact congrArg Except.ok (managesByName_iff.2 hname)

/-- The cell of a storage in a column. -/
def cellOf (t : Tables) (id column : String) : Cell :=
  (t.find? (.ofText id)).bind (Row.get? column)

end Tables

/-! ### The row -/

namespace Row

variable {row : Row} {r : Record}

/-- The row in another workspace. -/
def movedTo (target : String) (row : Row) : Row := row.update ⟨[("workspaceId", .ofText target)]⟩

theorem get?_workspaceId_movedTo (target : String) (row : Row) :
    (row.movedTo target).get? "workspaceId" = .ofText target := get?_update_of_some rfl row

theorem get?_movedTo {column : String} (h : column ≠ "workspaceId") (target : String) (row : Row) :
    (row.movedTo target).get? column = row.get? column := get?_update_cell h _ row

/-- **A record that is put over its row with another workspace changes that column only.** -/
theorem Holds.update_workspace (h : row.Holds r) (target : String) :
    row.update { r with workspaceId := target }.toRow = row.movedTo target := by
  let new : Record := { r with workspaceId := target }
  have hnew : new.toRow.columns =
      [("id", .ofText r.id)] ++ ("workspaceId", .ofText target) :: r.toRow.columns.drop 2 := rfl
  exact h.update_cell hnew (by simp [Record.toRow]) (by simp)

/-- The variant of the row with its secrets decrypted for the row's id. -/
def revealed (key : String) (row : Row) :
    Except Failure (Option (Except Field.DecryptionFault Variant)) :=
  (Storage.ofRow row).map fun s => s.variant.map (Variant.reveal key s.id)

/-- **The secrets of a row are decrypted in every workspace alike.** -/
theorem revealed_movedTo (key target : String) (row : Row) :
    (row.movedTo target).revealed key = row.revealed key := by
  have htype : (row.movedTo target).text? "type" = row.text? "type" :=
    congrArg Cell.text? (get?_movedTo (by decide) target row)
  rw [revealed, revealed, Storage.ofRow, Storage.ofRow, htype, get?_movedTo (by decide),
    get?_movedTo (by decide)]
  cases Variant.parseNamed ((row.text? "type").getD "") (row.get? "config") <;> rfl

end Row

namespace Service

open Operation

variable {env : Environment} {t : Tables} {n : Nat}

/-! ### The conditions -/

/-- No database is left behind: each that backs up to the storage is the one that is transferred
with it, or there is none. -/
def detachment (t : Tables) (id : String) (single : Option String) : Condition :=
  match single.filter (· ≠ "") with
  | some d =>
    { holds := ∀ a ∈ t.attachments, a.has "storageId" (.ofText id) = true →
        a.get? "databaseId" = .ofText d
      failure := .attachment .otherDatabasesAttached }
  | none => { holds := ¬t.References id, failure := .attachment .transferBlocked }

/-- What is checked before the storage is moved to the workspace `target`. -/
def transferConditions (t : Tables) (actor : Actor) (id target : String)
    (single : Option String) : List Condition :=
  [⟨t.HasStorage id, .notFound id⟩,
    ⟨t.cellOf id "isSystem" ≠ some (.bool true), .systemStorage .cannotTransfer⟩,
    ⟨t.MayManage actor (t.cellOf id "workspaceId"), .permission .sourceWorkspace⟩,
    ⟨t.MayManage actor (.ofText target), .permission .targetWorkspace⟩,
    detachment t id single]

theorem requireManage_checks (ha : env.Answers) (hr : t.HasRoles) (workspaceId : Cell)
    (actor : Actor) (reason : PermissionReason) :
    (requireManage workspaceId actor reason).Tells env t n
      (fun e => ¬t.MayManage actor workspaceId ∧ e = .permission reason)
      fun _ => t.MayManage actor workspaceId := by
  have hnot : mayManage actor (t.role workspaceId actor.id) = .ok false →
      ¬t.MayManage actor workspaceId := by
    intro hfalse
    rw [← Tables.mayManage_iff hr, hfalse]
    simp
  refine Ends.mono (requireManage_tells ha hr workspaceId actor fun h => ⟨hnot h, rfl⟩)
    (fun _ _ he => he) ?_
  rintro _ w ⟨hw, hmay⟩
  exact ⟨hw, (Tables.mayManage_iff hr).1 hmay⟩

theorem databases_gives (ha : env.Answers) (storageId : Cell) :
    (request (.findDatabases storageId)).Gives env t n (t.databasesOf storageId) := by
  refine gives_request ha (by simp) fun w hw => ⟨w, ?_, hw⟩
  rw [← hw.tables]
  rfl

theorem requireDetached_tells (id : String) (single : Option String) :
    let c := detachment t id single
    (requireDetached (t.databasesOf (.ofText id)) (single.map .string)).Tells env t n
      (fun e => ¬c.holds ∧ e = c.failure) fun _ => c.holds := by
  have hgiven : Cell.isTruthy (single.map .string) = (single.filter (· ≠ "")).isSome := by
    cases single with
    | none => rfl
    | some d => by_cases hd : d = "" <;> simp [Cell.isTruthy, Json.isTruthy, Option.filter, hd]
  rw [requireDetached, hgiven, detachment]
  cases hsingle : single.filter (· ≠ "") with
  | none => exact tells_condition (List.isEmpty_iff.trans Tables.databasesOf_eq_nil)
  | some d =>
    obtain ⟨rfl, -⟩ := Option.filter_eq_some_iff.1 hsingle
    refine tells_condition ?_
    simp only [List.all_eq_true, Tables.mem_databasesOf, Option.map_some]
    constructor
    · intro hall a ha hid
      exact Cell.same_ofText.1 (hall _ ⟨a, ha, hid, rfl⟩)
    · rintro hall _ ⟨a, ha, hid, rfl⟩
      exact Cell.same_ofText.2 (hall a ha hid)

/-- **The conditions of a transfer decide how it ends.** -/
theorem transfer_isDecidedBy (ha : env.Answers) (h : t.IsNormal) (hr : t.HasRoles) (actor : Actor)
    (id target : String) (single : Option String) :
    (transfer actor (.ofText id) (.ofText target) (single.map .string)).IsDecidedBy env t n
      (transferConditions t actor id target single) := by
  refine isDecidedBy_cons (get_tells ha h id fun hnone => ⟨?_, rfl⟩) ?_ ?_
  · exact fun hthere => Tables.find?_ne_none.2 hthere hnone
  · rintro _ ⟨row, -, hfound, -⟩
    exact Tables.find?_ne_none.1 (by simp [hfound])
  rintro _ ⟨row, r, hfound, hrow, rfl, rfl⟩
  have hsystem : t.cellOf r.id "isSystem" = some (.bool r.isSystem) := by
    rw [Tables.cellOf, hfound]
    exact hrow.isSystem
  have hworkspace : t.cellOf r.id "workspaceId" = .ofText r.workspaceId := by
    rw [Tables.cellOf, hfound]
    exact hrow.workspaceId
  refine isDecidedBy_cons (tells_condition ?_) (fun _ hc => hc) fun _ _ => ?_
  · simp [hsystem]
  refine isDecidedBy_cons ?_ (fun _ hc => hc) fun _ _ => ?_
  · rw [hworkspace]
    exact requireManage_checks ha hr _ actor _
  refine isDecidedBy_cons (requireManage_checks ha hr _ actor _) (fun _ hc => hc) fun _ _ => ?_
  refine Gives.bind (databases_gives ha _) ?_
  refine isDecidedBy_cons (requireDetached_tells _ single) (fun _ hc => hc) fun _ _ => ?_
  -- nothing fails once all is checked
  let moved : Record := { r with workspaceId := target }
  refine isDecidedBy_nil (S := fun _ _ => True) (Ends.bind (store_saves ha moved) ?_)
  rintro _ w -
  exact Ends.mono (tell_notes _ actor _ _) (fun _ _ hfalse => hfalse) fun _ _ _ => trivial

/-! ### What comes of a transfer -/

/-- A transfer that succeeds moves the row of its id, and nothing else of the storages changes. -/
theorem transfer_moves (h : t.IsNormal) (actor : Actor) (id target : String) (single : Cell) :
    (transfer actor (.ofText id) (.ofText target) single).Ends env t n (fun _ w => w.tables = t)
      (fun _ w => ∃ before row after audit, t.storages = before ++ row :: after ∧
        row.hasId (.ofText id) = true ∧
        w.tables = { t with storages := before ++ row.movedTo target :: after, audit }) := by
  refine Ends.mono (transfer_ends h actor id target single) (fun _ _ hw => hw) ?_
  rintro _ w ⟨r, audit, rfl, hmay, htables⟩
  obtain ⟨row, hfound, hrow⟩ := hmay.found
  let moved : Record := { r with workspaceId := target }
  have hid : t.find? (.ofText moved.id) = some row := hfound
  obtain ⟨before, after, hs, hsave⟩ := Tables.storages_save_over hid
  refine ⟨before, row, after, audit, hs, Tables.hasId_of_find? hfound, ?_⟩
  rw [htables, ← hrow.update_workspace, ← hsave]
  rfl

/-- **When a storage is moved, and what comes of it.**  Take any table of records, with every role
told and every question to a table answered.  A storage is moved if and only if all conditions hold,
and otherwise the failure is that of the first which does not, and the tables are as they were.  If
it is moved, then its row has another workspace and is else as it was, and no other storage changes;
so what the row says of its last connection test is kept, and every stored secret is decrypted to
what it was before. -/
theorem transfer_exact {w : World} (h : w.tables.IsNormal) (hr : w.tables.HasRoles)
    (ha : env.Answers) (actor : Actor) (id target : String) (single : Option String) :
    let t := w.tables
    let conditions := transferConditions t actor id target single
    let ended := (transfer actor (.ofText id) (.ofText target) (single.map .string)).run env w
    (ended.1 = .ok () ↔ ∀ c ∈ conditions, c.holds) ∧
    (∀ e, ended.1 = .error e ↔ FirstViolated conditions e) ∧
    (∀ e, ended.1 = .error e → ended.2.tables = t) ∧
    (ended.1 = .ok () → ∃ before row after audit,
      t.storages = before ++ row :: after ∧ row.hasId (.ofText id) = true ∧
      ended.2.tables = { t with storages := before ++ row.movedTo target :: after, audit } ∧
      (row.movedTo target).get? "workspaceId" = .ofText target ∧
      (∀ column, column ≠ "workspaceId" → (row.movedTo target).get? column = row.get? column) ∧
      ∀ key, (row.movedTo target).revealed key = row.revealed key) := by
  intro t conditions ended
  obtain ⟨hdone, hfailed⟩ := (transfer_isDecidedBy ha h hr actor id target single).run
  have hmoves : (transfer actor (.ofText id) (.ofText target) (single.map .string)).Ends env
      w.tables w.ids _ _ := transfer_moves h actor id target _
  refine ⟨⟨fun hok => hdone.1 ⟨(), hok⟩, fun hall => ?done⟩, hfailed,
    fun e he => hmoves.of_error w.at_self he, fun hok => ?moved⟩
  case done =>
    obtain ⟨⟨⟩, hok⟩ := hdone.2 hall
    exact hok
  case moved =>
    obtain ⟨before, row, after, audit, hs, hid, htables⟩ := hmoves.of_ok w.at_self hok
    refine ⟨before, row, after, audit, hs, hid, htables, row.get?_workspaceId_movedTo target,
      ?_, ?_⟩
    · exact fun _ hcolumn => row.get?_movedTo hcolumn target
    · exact fun key => row.revealed_movedTo key target

/-- A global administrator moves the storage with the database that backs up to it, and without the
database he is told that it is in the way. -/
theorem transfer_exact_backedUp :
    let admin : Actor := ⟨.ofText "u", .admin⟩
    let env := Environment.undisturbed "key" (fun _ => "b") fun _ => []
    let ended := fun single : Option String =>
      (transfer admin (.ofText "a") (.ofText "x") (single.map .string)).run env
        (.start Tables.backedUp)
    (ended (some "d")).1 = .ok () ∧
      (∃ row ∈ Tables.backedUp.storages, (ended (some "d")).2.tables.storages = [row.movedTo "x"]) ∧
      (ended none).1 = .error (.attachment .transferBlocked) ∧
      (ended none).2.tables = Tables.backedUp := by
  intro admin env ended
  have hnormal : Tables.backedUp.IsNormal :=
    Tables.isNormal_of_toRow (r := ⟨"a", "w", "disk", false, none, ⟨.localDisk, {}⟩⟩) rfl rfl
  have hroles : Tables.backedUp.HasRoles := fun _ hrow => absurd hrow List.not_mem_nil
  have hexact := @transfer_exact env (.start Tables.backedUp) hnormal hroles
    (Environment.answers_undisturbed _ _ _) admin "a" "x"
  have hchecks : ∀ single, ∀ c ∈ (transferConditions Tables.backedUp admin "a" "x" single).take 4,
      c.holds := by
    intro single
    simp only [transferConditions, List.take, List.forall_mem_cons]
    exact ⟨by decide +kernel, nofun, .inl rfl, .inl rfl, nofun⟩
  have hok : (ended (some "d")).1 = .ok () := by
    have hlast : (detachment Tables.backedUp "a" (some "d")).holds := by
      intro attachment hattachment _
      obtain rfl := List.mem_singleton.1 hattachment
      rfl
    have hall : ∀ c ∈ (transferConditions Tables.backedUp admin "a" "x" (some "d")).take 4 ++
        [detachment Tables.backedUp "a" (some "d")], c.holds :=
      List.forall_mem_append.2 ⟨hchecks _, List.forall_mem_singleton.2 hlast⟩
    exact (hexact (some "d")).1.2 hall
  have hblocked : (ended none).1 = .error (.attachment .transferBlocked) := by
    refine ((hexact none).2.1 _).2
      ⟨_, detachment Tables.backedUp "a" none, [], rfl, hchecks none, ?_, rfl⟩
    exact fun hnone => hnone (by decide +kernel)
  refine ⟨hok, ?_, hblocked, (hexact none).2.2.1 _ hblocked⟩
  obtain ⟨before, row, after, audit, hs, -, htables, -⟩ := (hexact (some "d")).2.2.2 hok
  obtain ⟨rfl, hrow⟩ | ⟨-, hnil⟩ := List.append_eq_singleton_iff.1 hs.symm
  · obtain ⟨rfl, rfl⟩ := List.cons.inj hrow
    exact ⟨_, List.mem_singleton_self _, congrArg Tables.storages htables⟩
  · cases hnil

end Service

end Depository
