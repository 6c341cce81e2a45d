import Depository.Proofs.Service.Asks
import Depository.Proofs.Service.Request

/-!
# Storages that databases back up to

A row of the table of attachments names the storage that a database backs up to.  The service only
reads this table, and it looks there before it deletes a storage; when a workspace is removed it
does not look there, and the storages of the workspace go with it.  So a reference that points to a
storage is left without one only by the removal of the workspace of that storage.

* `Tables.References`, `Tables.HasStorage` — what is referenced, and what is there;
* `Tables.Retains` — the attachments stay, and so do all storages but some;
* `Request.retains` — what each request that writes retains;
* `Tables.Run.keeps_references` — **no request leaves a reference without its storage**, but for the
  removal of a workspace, and `Request.clear_loses_references`, which says that this one does.
-/

namespace Depository

namespace Tables

/-- A database backs up to the storage of this id. -/
def References (t : Tables) (id : String) : Prop :=
  ∃ attachment ∈ t.attachments, attachment.has "storageId" (.ofText id) = true

/-- There is a storage of this id. -/
def HasStorage (t : Tables) (id : String) : Prop :=
  ∃ row ∈ t.storages, row.hasId (.ofText id) = true

instance (t : Tables) (id : String) : Decidable (t.References id) :=
  inferInstanceAs (Decidable (∃ attachment ∈ t.attachments, _ = true))

instance (t : Tables) (id : String) : Decidable (t.HasStorage id) :=
  inferInstanceAs (Decidable (∃ row ∈ t.storages, _ = true))

/-- A storage is found under an id if there is one. -/
theorem find?_ne_none {t : Tables} {id : String} :
    t.find? (.ofText id) ≠ none ↔ t.HasStorage id := by
  rw [Tables.find?, Row.find?, Ne, List.find?_eq_none]
  simp [HasStorage]

/-- Where only equals are taken for the same, nothing but repetitions is left out. -/
theorem mem_eraseDupsBy {α : Type} {same : α → α → Bool} (hsame : ∀ a b, same a b = true → a = b)
    (xs : List α) (a : α) : a ∈ xs.eraseDupsBy same ↔ a ∈ xs := by
  -- the rest of the list is filtered, so the induction is on the length
  induction hlength : xs.length using Nat.strongRecOn generalizing xs with
  | ind length ih =>
    subst hlength
    cases xs with
    | nil => rfl
    | cons x rest =>
      have hrest := ih _ (Nat.lt_succ_of_le (List.length_filter_le _ rest))
        (rest.filter fun b => same b x = false) rfl
      rw [List.eraseDupsBy_cons, List.mem_cons, List.mem_cons, hrest, List.mem_filter]
      refine ⟨Or.imp_right And.left, ?_⟩
      rintro (rfl | ha)
      · exact .inl rfl
      · cases hx : same a x with
        | true => exact .inl (hsame a x hx)
        | false => exact .inr ⟨ha, decide_eq_true rfl⟩

/-- Every database that backs up to a storage is listed. -/
theorem mem_databasesOf {t : Tables} {storageId d : Cell} :
    d ∈ t.databasesOf storageId ↔
      ∃ a ∈ t.attachments, a.has "storageId" storageId = true ∧ a.get? "databaseId" = d := by
  rw [databasesOf, mem_eraseDupsBy fun a b h => (Cell.same_iff.1 h).1]
  simp only [List.mem_map, List.mem_filter, and_assoc]

/-- No database is listed where there is no reference. -/
theorem databasesOf_eq_nil {t : Tables} {id : String} :
    t.databasesOf (.ofText id) = [] ↔ ¬t.References id := by
  rw [List.eq_nil_iff_forall_not_mem, References]
  simp only [mem_databasesOf]
  constructor
  · rintro h ⟨a, ha, hid⟩
    exact h _ ⟨a, ha, hid, rfl⟩
  · rintro h d ⟨a, ha, hid, -⟩
    exact h ⟨a, ha, hid⟩

/-- No reference is without its storage. -/
def IsIntact (t : Tables) : Prop := ∀ id, t.References id → t.HasStorage id

/-- Of the attachments and the storages of `t` nothing is lost in `u` but storages that may be. -/
structure Retains (lost : String → Prop) (t u : Tables) : Prop where
  attachments : u.attachments = t.attachments
  storages : ∀ id, t.HasStorage id → u.HasStorage id ∨ lost id

variable {t u v : Tables} {id : String} {lost lost' : String → Prop}

theorem Retains.refl (lost : String → Prop) (t : Tables) : t.Retains lost t :=
  ⟨rfl, fun _ h => .inl h⟩

theorem Retains.trans (h : t.Retains lost u) (h' : u.Retains lost v) : t.Retains lost v := by
  refine ⟨h'.attachments.trans h.attachments, fun id hid => ?_⟩
  obtain hu | hlost := h.storages id hid
  · exact h'.storages id hu
  · exact .inr hlost

theorem Retains.mono (h : t.Retains lost u) (hlost : ∀ id, lost id → lost' id) :
    t.Retains lost' u :=
  ⟨h.attachments, fun id hid => (h.storages id hid).imp_right (hlost id)⟩

theorem Retains.references (h : t.Retains lost u) (id : String) :
    u.References id ↔ t.References id := by
  rw [References, h.attachments, References]

/-- A table in which nothing referenced is lost stays intact. -/
theorem Retains.isIntact (h : t.Retains lost u) (hlost : ∀ id, t.References id → ¬lost id)
    (hi : t.IsIntact) : u.IsIntact := by
  intro id hid
  rw [h.references] at hid
  exact (h.storages id (hi id hid)).resolve_right (hlost id hid)

/-- A row that is put over another one leaves it its id. -/
theorem get?_id_update {r row : Row} (h : r.hasId (row.get? "id") = true) :
    (r.update row).get? "id" = r.get? "id" := by
  rw [Row.get?_update]
  cases hid : Members.get? "id" row.columns with
  | none => rfl
  | some c =>
    have hrow : row.get? "id" = c := by rw [Row.get?, hid]; rfl
    exact hrow.symm.trans (Row.hasId_iff.1 h).1.symm

/-- A row that is saved takes no other row out of the table. -/
theorem HasStorage.save (h : t.HasStorage id) (row : Row) : (t.save row).HasStorage id := by
  obtain ⟨r, hr, hid⟩ := h
  rw [HasStorage, Tables.save]
  obtain ⟨-, hput⟩ | ⟨before, s, after, hs, hsid, -, hput⟩ := Row.put_cases row t.storages
  · rw [hput]
    exact ⟨r, List.mem_append_left _ hr, hid⟩
  · rw [hput]
    rw [hs, List.mem_append, List.mem_cons] at hr
    obtain hbefore | rfl | hafter := hr
    · exact ⟨r, List.mem_append_left _ hbefore, hid⟩
    · refine ⟨r.update row, by simp, ?_⟩
      rw [Row.hasId, Row.has, get?_id_update hsid]
      exact hid
    · exact ⟨r, List.mem_append_right _ (List.mem_cons_of_mem _ hafter), hid⟩

/-- Only the storages that are taken out are lost. -/
theorem retains_without (gone : List Storage) (t : Tables) :
    t.Retains (fun id => ∃ s ∈ gone, s.id = .ofText id) (Service.without gone t) := by
  refine ⟨rfl, fun id ⟨row, hrow, hid⟩ => ?_⟩
  by_cases hgone : ∃ s ∈ gone, row.hasId s.id = true
  · obtain ⟨s, hs, hsid⟩ := hgone
    exact .inr ⟨s, hs, (Row.hasId_iff.1 hsid).1.symm.trans (Row.hasId_iff.1 hid).1⟩
  · refine .inl ⟨row, List.mem_filter.2 ⟨hrow, ?_⟩, hid⟩
    simpa using hgone

theorem retains_delete (id : String) (t : Tables) :
    t.Retains (fun other => other = id) (t.delete (.ofText id)) := by
  refine ⟨rfl, fun other ⟨row, hrow, hother⟩ => ?_⟩
  by_cases hid : row.hasId (.ofText id) = true
  · have hsame : Cell.ofText other = .ofText id :=
      (Row.hasId_iff.1 hother).1.symm.trans (Row.hasId_iff.1 hid).1
    exact .inr (by simpa [Cell.ofText] using hsame)
  · exact .inl ⟨row, List.mem_filter.2 ⟨hrow, by simpa using hid⟩, hother⟩

end Tables

/-! ### Operations that take nothing out -/

/-- The instruction neither deletes a storage nor tests a connection. -/
def Instruction.IsTame : Instruction → Prop
  | deleteStorage _ | probe _ _ => False
  | _ => True

namespace Operation

variable {α : Type} {o : Operation α} {env : Environment} {t : Tables} {n : Nat}

theorem retains_perform {i : Instruction} (h : i.IsTame) (lost : String → Prop) (w : World) :
    w.tables.Retains lost (env.perform w i).2.tables := by
  rw [Environment.perform]
  cases env.faultOf w i with
  | some message => exact .refl lost _
  | none =>
    cases i with
    | findStorage | listStorages | findRole | findDatabases | drawId | log => exact .refl lost _
    | saveStorage row =>
      let counted : World := { w with instructions := w.instructions + 1 }
      have hsaved : (env.answer counted (.saveStorage row)).2.tables =
          w.tables.save (env.identify row counted).1 :=
        congrArg (Tables.save _) (env.tables_identify row counted)
      rw [hsaved]
      exact ⟨rfl, fun id hid => .inl (hid.save _)⟩
    | saveAudit entry =>
      let counted : World := { w with instructions := w.instructions + 1 }
      have hnoted : (env.answer counted (.saveAudit entry)).2.tables =
          w.tables.note (env.identify entry counted).1 :=
        congrArg (Tables.note _) (env.tables_identify entry counted)
      rw [hnoted]
      exact ⟨rfl, fun id hid => .inl hid⟩
    | protect owner v =>
      show w.tables.Retains lost (env.protect owner v _).2.tables
      rw [env.tables_protect]
      exact .refl lost _
    | deleteStorage | probe => exact h.elim

/-- **An operation without deletions and connection tests takes nothing out.** -/
theorem Asks.ends_tame (h : o.Asks Instruction.IsTame) (lost : String → Prop) :
    o.Ends env t n (fun _ w => t.Retains lost w.tables) (fun _ w => t.Retains lost w.tables) :=
  h.ends_tables (fun t => .refl lost t) (fun _ _ _ htu huv => htu.trans huv)
    fun w _ hi => retains_perform hi lost w

end Operation

namespace Service

open Operation

/-! ### What each operation asks -/

theorem store_tame (s : Storage) : (store s).Asks Instruction.IsTame :=
  store_asks (fun _ => trivial) s

theorem recordAudit_tame (actor : Actor) (workspaceId : Cell) (message : String) :
    (recordAudit actor workspaceId message).Asks Instruction.IsTame :=
  recordAudit_asks (fun _ => trivial) (fun _ => trivial) actor workspaceId message

theorem log_tame (line : LogLine) : (log line).Asks Instruction.IsTame := asks_request trivial

theorem requireManage_tame (workspaceId : Cell) (actor : Actor) (reason : PermissionReason) :
    (requireManage workspaceId actor reason).Asks Instruction.IsTame :=
  requireManage_asks trivial reason

theorem create_tame (actor : Actor) (workspaceId : Cell) (input : Input) :
    (create actor workspaceId input).Asks Instruction.IsTame := by
  refine Asks.bind (asks_request trivial) fun id => Asks.bind (asks_lift _) fun name => ?_
  refine Asks.bind (asks_lift _) fun submitted => Asks.bind (asks_lift _) fun _ => ?_
  refine Asks.bind (asks_request trivial) fun variant => Asks.bind (store_tame _) fun saved => ?_
  refine Asks.bind (asks_lift _) fun known => Asks.bind (asks_told _) fun _ => ?_
  refine Asks.bind (asks_told _) fun _ => Asks.bind (log_tame _) fun _ => ?_
  refine Asks.bind (asks_told _) fun _ => Asks.bind (recordAudit_tame _ _ _) fun _ => ?_
  exact asks_pure saved

theorem update_tame (actor : Actor) (workspaceId id : Cell) (input : Input) :
    (update actor workspaceId id input).Asks Instruction.IsTame := by
  refine Asks.bind (get_asks trivial) fun existing => Asks.bind (asks_require _ _) fun _ => ?_
  refine Asks.bind (asks_require _ _) fun _ => Asks.bind (asks_lift _) fun current => ?_
  refine Asks.bind (asks_lift _) fun submitted => Asks.bind (asks_lift _) fun _ => ?_
  refine Asks.bind (asks_request trivial) fun variant => Asks.bind (asks_lift _) fun name => ?_
  refine Asks.bind (store_tame _) fun saved => Asks.bind (asks_lift _) fun known => ?_
  refine Asks.bind (asks_told _) fun _ => Asks.bind (asks_told _) fun _ => ?_
  refine Asks.bind (log_tame _) fun _ => Asks.bind (asks_told _) fun _ => ?_
  exact Asks.bind (recordAudit_tame _ _ _) fun _ => asks_pure saved

theorem save_tame (cloudMode : Bool) (actor : Actor) (workspaceId : Cell) (input : Input) :
    (save cloudMode actor workspaceId input).Asks Instruction.IsTame := by
  refine Asks.bind (requireManage_tame _ _ _) fun _ => Asks.bind (asks_require _ _) fun _ => ?_
  refine Asks.bind (asks_require _ _) fun _ => Asks.bind (asks_lift _) fun name => ?_
  refine Asks.bind (asks_require _ _) fun _ => Asks.bind ?_ fun saved => asks_lift _
  rw [createOrUpdate]
  split
  · exact update_tame _ _ _ _
  · exact create_tame _ _ _

theorem transfer_tame (actor : Actor) (id target single : Cell) :
    (transfer actor id target single).Asks Instruction.IsTame := by
  refine Asks.bind (get_asks trivial) fun s => Asks.bind (asks_require _ _) fun _ => ?_
  refine Asks.bind (requireManage_tame _ _ _) fun _ => ?_
  refine Asks.bind (requireManage_tame _ _ _) fun _ => ?_
  refine Asks.bind (asks_request trivial) fun databases => ?_
  refine Asks.bind (requireDetached_asks _ _) fun _ => ?_
  refine Asks.bind (store_tame _) fun _ => Asks.bind (asks_told _) fun _ => ?_
  refine Asks.bind (asks_told _) fun _ => Asks.bind (asks_told _) fun _ => ?_
  refine Asks.bind (log_tame _) fun _ => Asks.bind (asks_told _) fun _ => ?_
  refine Asks.bind (asks_told _) fun _ => Asks.bind (asks_told _) fun _ => ?_
  exact recordAudit_tame _ _ _

/-! ### Deletions -/

variable {env : Environment} {t : Tables} {n : Nat}

theorem retains_of_at {lost : String → Prop} {w : World} (hw : w.At t n) :
    t.Retains lost w.tables := by
  rw [hw.tables]
  exact .refl lost t

/-- **What is deleted is not referenced.** -/
theorem delete_retains (actor : Actor) (id : String) :
    (delete actor (.ofText id)).Ends env t n
      (fun _ w => t.Retains (fun other => ¬t.References other) w.tables)
      (fun _ w => t.Retains (fun other => ¬t.References other) w.tables) := by
  refine Reads.bind (get_loads _) (fun _ _ => retains_of_at) fun s _ => ?_
  refine Reads.bind (requireManage_reads _ actor _) (fun _ _ => retains_of_at) fun _ _ => ?_
  refine Reads.bind (requireSystem_passes actor _) (fun _ _ => retains_of_at) fun _ _ => ?_
  refine Reads.bind (findDatabases_reads _) (fun _ _ => retains_of_at) ?_
  rintro _ rfl
  refine Reads.bind (reads_require _ _) (fun _ _ => retains_of_at) fun _ hdetached => ?_
  have hnone : ¬t.References id := Tables.databasesOf_eq_nil.1 (List.isEmpty_iff.1 hdetached)
  refine Ends.bind (Ends.mono (deleteStorage_ends _) (fun _ _ => retains_of_at)
    fun _ _ hw => hw) fun _ w hw => ?_
  have hdeleted : t.Retains (fun other => ¬t.References other) w.tables := by
    rw [hw.tables]
    exact (t.retains_delete id).mono fun other hother => hother ▸ hnone
  have htold : ∀ {u : World}, w.tables.Retains (fun other => ¬t.References other) u.tables →
      t.Retains (fun other => ¬t.References other) u.tables := hdeleted.trans
  refine Ends.mono (Asks.ends_tame ?_ _) (fun _ _ => htold) fun _ _ => htold
  refine Asks.bind (asks_told _) fun _ => Asks.bind (asks_told _) fun _ => ?_
  refine Asks.bind (log_tame _) fun _ => Asks.bind (asks_told _) fun _ => ?_
  exact recordAudit_tame _ _ _

end Service

namespace Request

open Operation Service

/-- The request is one that writes to the table of storages. -/
def IsWriting : Request → Prop
  | save .. | delete .. | transfer .. | clear _ => True
  | _ => False

/-- The request is for the removal of a workspace that has the storage of this id. -/
def Clears (t : Tables) (id : String) : Request → Prop
  | clear workspaceId => ∃ row ∈ t.storages, row.hasId (.ofText id) = true ∧
      row.has "workspaceId" (.ofText workspaceId) = true
  | _ => False

end Request

namespace Service

open Operation

variable {env : Environment} {t : Tables} {n : Nat}

/-- **With a workspace only its own storages are deleted**, also if a deletion fails. -/
theorem clearWorkspace_retains (workspaceId : String) :
    (clearWorkspace (.ofText workspaceId)).Ends env t n
      (fun _ w => t.Retains (fun id => (Request.clear workspaceId).Clears t id) w.tables)
      (fun _ w => t.Retains (fun id => (Request.clear workspaceId).Clears t id) w.tables) := by
  refine Reads.bind (list_reads _) (fun _ _ => retains_of_at) fun storages hload => ?_
  refine Reads.bind (reads_require _ _) (fun _ _ => retains_of_at) fun _ _ => ?_
  have hwithout : ∀ gone, gone ⊆ storages.filter (fun s => s.workspaceId.same
      (.ofText workspaceId)) →
      t.Retains (fun id => (Request.clear workspaceId).Clears t id) (without gone t) := by
    intro gone hgone
    refine (Tables.retains_without gone t).mono ?_
    rintro id ⟨s, hs, hid⟩
    obtain ⟨hlisted, howned⟩ := List.mem_filter.1 (hgone hs)
    -- the storage was read from a row of the workspace
    obtain ⟨row, hrow, hread⟩ := (mem_loadAll hload s).1 hlisted
    obtain ⟨hrowId, hrowWorkspace, -⟩ := Storage.columns_of_ofRow hread
    refine ⟨row, (Tables.mem_visibleIn.1 hrow).1, ?_, ?_⟩
    · exact Cell.same_ofText.2 (hrowId.symm.trans hid)
    · rw [Row.has, ← hrowWorkspace]
      exact howned
  refine Ends.bind (Ends.mono (deleteAll_ends _) ?_ fun _ _ hw => hw) fun _ w hw => ?_
  · rintro _ w ⟨-, gone, hgone, htables⟩
    rw [htables]
    exact hwithout gone hgone
  · have hdeleted := hwithout _ (List.Subset.refl _)
    rw [← hw.tables] at hdeleted
    refine Ends.mono (Asks.ends_tame (Asks.bind (asks_told _) fun _ => log_tame _) _)
      (fun _ _ => hdeleted.trans) fun _ _ => hdeleted.trans

end Service

namespace Request

open Operation Service

variable {env : Environment} {t : Tables} {n : Nat}

/-- **What every request that writes retains**: a referenced storage stays, unless its workspace is
removed. -/
theorem retains (cloudMode : Bool) {request : Request} (h : request.IsWriting) :
    (request.program cloudMode).Ends env t n
      (fun _ w => t.Retains (fun id => ¬t.References id ∨ request.Clears t id) w.tables)
      (fun _ w => t.Retains (fun id => ¬t.References id ∨ request.Clears t id) w.tables) := by
  cases request with
  | save actor workspaceId s =>
    exact Asks.ends_tame (Asks.bind (save_tame cloudMode actor _ _) fun _ => asks_pure ()) _
  | transfer actor id target single => exact Asks.ends_tame (transfer_tame actor _ _ _) _
  | delete actor id =>
    exact Ends.mono (delete_retains actor id) (fun _ _ hw => hw.mono fun _ => .inl)
      fun _ _ hw => hw.mono fun _ => .inl
  | clear workspaceId =>
    exact Ends.mono (clearWorkspace_retains workspaceId) (fun _ _ hw => hw.mono fun _ => .inr)
      fun _ _ hw => hw.mono fun _ => .inr
  | _ => exact h.elim

end Request

/-! ### Runs -/

/-- A request, and what decides about it. -/
structure Move where
  env : Environment
  cloudMode : Bool
  request : Request

/-- Everything works for a request. -/
def Move.undisturbed (request : Request) : Move :=
  ⟨.undisturbed "key" (fun _ => "b") fun _ => [], false, request⟩

namespace Tables

/-- The tables after a request has run. -/
def after (t : Tables) (m : Move) : Tables :=
  ((m.request.program m.cloudMode).run m.env (.start t)).2.tables

/-- Requests that write run one after another, none of which removes a workspace with a referenced
storage.  In between others may change the tables as well, if they leave no reference without its
storage. -/
inductive Run (t : Tables) : Tables → Prop where
  | refl : Run t t
  | request {u : Tables} (m : Move) : Run t u → m.request.IsWriting →
    (∀ id, u.References id → ¬m.request.Clears u id) → Run t (u.after m)
  | others {u v : Tables} : Run t u → (u.IsIntact → v.IsIntact) → Run t v

variable {t u : Tables}

theorem retains_after (t : Tables) {m : Move} (h : m.request.IsWriting) :
    t.Retains (fun id => ¬t.References id ∨ m.request.Clears t id) (t.after m) := by
  have hends : (m.request.program m.cloudMode).Ends m.env t (World.start t).ids _ _ :=
    Request.retains m.cloudMode h
  obtain ⟨_, -, hend⟩ | ⟨_, -, hend⟩ := hends.run (World.at_self (.start t)) <;> exact hend

theorem Run.isIntact (h : t.Run u) (hi : t.IsIntact) : u.IsIntact := by
  induction h with
  | refl => exact hi
  | @request u m _ hwrites hclears ih =>
    refine (u.retains_after hwrites).isIntact (fun id hid hlost => ?_) ih
    exact hlost.elim (absurd hid) (hclears id hid)
  | others _ hothers ih => exact hothers ih

/-- **References keep their storages.**  Whatever is in the tables, whoever asks for what and
whatever fails: a request that writes leaves the attachments as they are, and every storage to which
a database backs up is still there, unless the request is for the removal of the workspace of that
storage.  So in every run without such a removal, tables in which each reference has its storage
stay so. -/
theorem Run.keeps_references :
    (∀ (t : Tables) (m : Move), m.request.IsWriting →
      (t.after m).attachments = t.attachments ∧
        ∀ id, t.References id → t.HasStorage id →
          (t.after m).HasStorage id ∨ m.request.Clears t id) ∧
    ∀ t u : Tables, t.Run u → t.IsIntact → u.IsIntact := by
  refine ⟨fun t m hwrites => ⟨(t.retains_after hwrites).attachments, fun id hid hthere => ?_⟩,
    fun t u => Run.isIntact⟩
  obtain hstill | hnot | hclears := (t.retains_after hwrites).storages id hthere
  · exact .inl hstill
  · exact absurd hid hnot
  · exact .inr hclears

/-- One storage on local disk, to which one database backs up. -/
def backedUp : Tables :=
  let disk : Record := ⟨"a", "w", "disk", false, none, ⟨.localDisk, {}⟩⟩
  ⟨[disk.toRow], [], [⟨[("databaseId", .ofText "d"), ("storageId", .ofText "a")]⟩], []⟩

theorem isIntact_backedUp : backedUp.IsIntact := by
  rintro id ⟨attachment, hattachment, hid⟩
  obtain rfl := List.mem_singleton.1 hattachment
  obtain rfl : "a" = id := by
    have hcolumn := Cell.same_ofText.1 hid
    simpa [Row.get?, Members.get?, Cell.ofText] using hcolumn
  decide +kernel

/-- A global administrator asks for the storage to be deleted, and it stays. -/
theorem Run.keeps_references_deletion :
    let m := Move.undisturbed (.delete ⟨.ofText "u", .admin⟩ "a")
    backedUp.IsIntact ∧ (backedUp.after m).HasStorage "a" ∧ (backedUp.after m).IsIntact := by
  intro m
  obtain ⟨hstep, hrun⟩ := Run.keeps_references
  obtain ⟨-, hkept⟩ := hstep backedUp m trivial
  have hstill : (backedUp.after m).HasStorage "a" :=
    (hkept "a" (by decide +kernel) (by decide +kernel)).resolve_right id
  have hcourse : backedUp.Run (backedUp.after m) := .request m .refl trivial fun _ _ => id
  exact ⟨isIntact_backedUp, hstill, hrun backedUp _ hcourse isIntact_backedUp⟩

end Tables

/-- **The removal of a workspace leaves a reference without its storage.** -/
theorem Request.clear_loses_references :
    Tables.backedUp.IsIntact ∧
      let after := Tables.backedUp.after (.undisturbed (.clear "w"))
      after.References "a" ∧ ¬after.HasStorage "a" :=
  ⟨Tables.isIntact_backedUp, by decide +kernel, by decide +kernel⟩

end Depository
