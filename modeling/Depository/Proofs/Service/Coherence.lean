import Depository.Proofs.Service.Authorisation
import Depository.Proofs.Service.Secrecy
import Depository.Proofs.Service.Succeeds

/-!
# Listing, reading and saving show the same

A storage is shown in three places: in the list of a workspace, where it is read under its id, and
where it was saved.  Each of them looks at rights of its own and gets the storage in a way of its
own, but the view is always made of the row in the table.  So whoever may view a workspace is shown
in its list what he would read under each id, and whoever saves a storage is shown what he reads of
it afterwards.

* `Service.readAll_shows` — the list of a workspace is made, a view for each row;
* `Service.read_of_visible` — what is in the list can be read;
* `Service.read_of_saved` — what was saved can be read;
* `Service.views_coherent` — **all three show the same**.
-/

namespace Depository

/-! ### Rows that are listed -/

namespace Row

variable {row : Row} {r : Record}

/-- What is listed in a workspace is of the workspace or of a system storage. -/
theorem Holds.isVisibleIn (h : row.Holds r) (workspaceId : String) :
    Tables.isVisibleIn (.ofText workspaceId) row = true ↔
      r.workspaceId = workspaceId ∨ r.isSystem = true := by
  have howned : row.has "workspaceId" (.ofText workspaceId) = true ↔
      r.workspaceId = workspaceId := by
    rw [Row.has, Cell.same_ofText, h.workspaceId, Cell.ofText, Cell.ofText, Option.some.injEq,
      Json.string.injEq]
  have hsystem : (row.get? "isSystem").isTrue = r.isSystem := by
    rw [h.isSystem]
    cases r.isSystem <;> rfl
  rw [Tables.isVisibleIn, Bool.or_eq_true, howned, hsystem]

end Row

namespace Tables

variable {t : Tables}

/-- The rows of a normal table have names that can be compared. -/
theorem IsNormal.canList (h : t.IsNormal) (workspaceId : Cell) :
    Tables.canList (t.visibleIn workspaceId) = true := by
  rw [Tables.canList, Bool.or_eq_true]
  refine .inr (List.all_eq_true.2 fun row hrow => ?_)
  obtain ⟨r, hr⟩ := h.holds row (mem_visibleIn.1 hrow).1
  rw [hr.name]
  rfl

/-- A list has every row as often as the table, and there no id is found twice. -/
theorem IsNormal.nodup_visibleIn (h : t.IsNormal) (workspaceId : Cell) :
    ((t.visibleIn workspaceId).map (Row.get? "id")).Nodup := by
  refine ((Listing.sort_perm _ _).map _).nodup_iff.2 ?_
  exact h.nodup.sublist (List.filter_sublist.map _)

end Tables

namespace Record

/-- What an actor sees of a record. -/
def shownTo (actor : Actor) (r : Record) : View := viewWith actor r.toStorage r.variant

@[simp] theorem id_shownTo (actor : Actor) (r : Record) : (r.shownTo actor).id = .ofText r.id := rfl

theorem viewOf_shownTo (actor : Actor) (r : Record) :
    Service.viewOf actor r.toStorage = .ok (r.shownTo actor) := viewOf_eq rfl

end Record

namespace Service

open Operation

variable {env : Environment} {t : Tables} {n : Nat} {actor : Actor}

/-! ### The list of a workspace -/

theorem loadAll_eq {rows : List Row} {rs : List Record} (h : List.Forall₂ Row.Holds rows rs) :
    loadAll rows = .ok (rs.map Record.toStorage) := by
  induction h with
  | nil => rfl
  | cons hr _ ih =>
    rw [loadAll, hr.ofRow, ih]
    rfl

theorem viewAll_eq (actor : Actor) (rs : List Record) :
    viewAll actor (rs.map Record.toStorage) = .ok (rs.map (Record.shownTo actor)) := by
  induction rs with
  | nil => rfl
  | cons r rs ih =>
    rw [List.map_cons, viewAll, Record.viewOf_shownTo, ih]
    rfl

/-- The rows of a list of normal rows hold a list of records. -/
theorem exists_records {rows : List Row} (h : ∀ row ∈ rows, ∃ r : Record, row.Holds r) :
    ∃ rs, List.Forall₂ Row.Holds rows rs := by
  induction rows with
  | nil => exact ⟨[], .nil⟩
  | cons row rows ih =>
    obtain ⟨r, hr⟩ := h row (by simp)
    obtain ⟨rs, hrs⟩ := ih fun other hother => h other (by simp [hother])
    exact ⟨r :: rs, .cons hr hrs⟩

theorem mem_records_iff {rows : List Row} {rs : List Record} (h : List.Forall₂ Row.Holds rows rs)
    (r : Record) : r ∈ rs ↔ ∃ row ∈ rows, row.Holds r := by
  induction h with
  | nil => simp
  | cons hr _ ih =>
    rw [List.mem_cons, ih, List.exists_mem_cons_iff]
    refine or_congr_left ⟨?_, fun h => h.unique hr⟩
    rintro rfl
    exact hr

theorem map_id_records {rows : List Row} {rs : List Record} (h : List.Forall₂ Row.Holds rows rs) :
    rs.map (fun r => Cell.ofText r.id) = rows.map (Row.get? "id") := by
  induction h with
  | nil => rfl
  | cons hr _ ih => rw [List.map_cons, List.map_cons, hr.id, ih]

/-- The records of a list of normal rows come back. -/
theorem list_gives (ha : env.Answers) (h : t.IsNormal) {workspaceId : Cell} {rs : List Record}
    (hrs : List.Forall₂ Row.Holds (t.visibleIn workspaceId) rs) :
    (list workspaceId).Gives env t n (rs.map Record.toStorage) := by
  have hrows : (request (.listStorages workspaceId)).Gives env t n (t.visibleIn workspaceId) := by
    refine gives_request ha (by simp) fun w hw => ⟨w, ?_, hw⟩
    show (Environment.listing workspaceId w.tables, w) = _
    rw [hw.tables, Environment.listing, if_pos (h.canList workspaceId)]
  exact Gives.bind hrows (gives_lift (loadAll_eq hrs))

/-- **The list of a workspace** is made, with the view of each record in it. -/
theorem readAll_gives (ha : env.Answers) (h : t.IsNormal) {workspaceId : Cell} {rs : List Record}
    (hmay : mayView actor (t.role workspaceId actor.id) = true)
    (hrs : List.Forall₂ Row.Holds (t.visibleIn workspaceId) rs) :
    (readAll actor workspaceId).Gives env t n (rs.map (Record.shownTo actor)) := by
  refine Gives.bind (requireView_gives ha _ hmay) ?_
  exact Gives.bind (list_gives ha h hrs) (gives_lift (viewAll_eq actor rs))

/-- What an actor is shown in the list of a workspace he can read. -/
theorem read_of_visible (ha : env.Answers) (h : t.IsNormal) {workspaceId : String} {row : Row}
    {r : Record} (hmay : mayView actor (t.role (.ofText workspaceId) actor.id) = true)
    (hrow : row ∈ t.visibleIn (.ofText workspaceId)) (hr : row.Holds r) :
    (read actor (.ofText r.id)).Gives env t n (r.shownTo actor) := by
  obtain ⟨hmem, hvisible⟩ := Tables.mem_visibleIn.1 hrow
  refine read_shows ha (h.find? hmem hr) hr.ofRow ?_ (r.viewOf_shownTo actor)
  rcases (hr.isVisibleIn workspaceId).1 hvisible with rfl | hsystem
  · exact .inr hmay
  · exact .inl ((Record.isShared_toStorage r).trans hsystem)

/-! ### What was saved -/

theorem SavedAs.workspaceId {workspaceId : String} {s : Submission} {r : Record}
    (h : SavedAs env t n workspaceId s r) : r.workspaceId = workspaceId := by
  rcases h with hcreated | ⟨old, hupdated⟩
  · rw [hcreated.record]
  · rw [hupdated.record]
    exact hupdated.owned

/-- What an actor was shown when he saved a storage he can read. -/
theorem read_of_saved (ha : env.Answers) {workspaceId : String} {r : Record} {v : View}
    {audit : List Row}
    (hmanage : mayManage actor (t.role (.ofText workspaceId) actor.id) = .ok true)
    (hworkspace : r.workspaceId = workspaceId) (hv : viewOf actor r.reread.toStorage = .ok v) :
    (read actor (.ofText r.id)).Gives env ((t.save r.toRow).withAudit audit) n v := by
  obtain ⟨row, hfound, hrow⟩ := Tables.find?_of_save t r
  refine read_shows ha hfound hrow (.inr ?_) hv
  have hsame : r.reread.toStorage.workspaceId = .ofText workspaceId :=
    congrArg Cell.ofText hworkspace
  rw [hsame, mayView, Bool.or_eq_true]
  exact views_of_mayManage hmanage

/-! ### All three show the same -/

/-- **Listing, reading and saving show the same.**  Take a normal table and an actor.  If he may
view a workspace then he is shown a list of it, in which each id of a storage that is of the
workspace or a system storage is found once and no other id is found, and each view in it is what he
reads under its id.  And whenever he saves a storage in the workspace, what he is shown is what he
reads under its id from the tables that saving left. -/
theorem views_coherent (h : t.IsNormal) (actor : Actor) (workspaceId : String) :
    (mayView actor (t.role (.ofText workspaceId) actor.id) = true →
      ∃ views : List View,
        (∀ (env : Environment) (w : World), env.Answers → w.tables = t →
          ((readAll actor (.ofText workspaceId)).run env w).1 = .ok views) ∧
        (views.map View.id).Nodup ∧
        (∀ id, id ∈ views.map View.id ↔ ∃ row ∈ t.storages, row.get? "id" = id ∧
          (row.get? "workspaceId" = .ofText workspaceId ∨
            row.get? "isSystem" = some (.bool true))) ∧
        ∀ v ∈ views, ∀ (env : Environment) (w : World), env.Answers → w.tables = t →
          ((read actor v.id).run env w).1 = .ok v) ∧
      ∀ (cloudMode : Bool) (s : Submission) (env : Environment) (w after : World) (v : View),
        w.tables = t →
        (save cloudMode actor (.ofText workspaceId) s.toInput).run env w = (.ok v, after) →
        ∀ (env : Environment) (w : World), env.Answers → w.tables = after.tables →
          ((read actor v.id).run env w).1 = .ok v := by
  refine ⟨fun hmay => ?_, ?_⟩
  · obtain ⟨rs, hrs⟩ := exists_records fun row hrow => h.holds row (Tables.mem_visibleIn.1 hrow).1
    have hids : (rs.map (Record.shownTo actor)).map View.id =
        (t.visibleIn (.ofText workspaceId)).map (Row.get? "id") := by
      rw [← map_id_records hrs, List.map_map]
      rfl
    refine ⟨rs.map (Record.shownTo actor), ?list, ?once, ?each, ?read⟩
    case list =>
      rintro env w ha rfl
      exact (Gives.run (readAll_gives ha h hmay hrs) w.at_self).1
    case once =>
      rw [hids]
      exact h.nodup_visibleIn _
    case each =>
      intro id
      rw [hids, List.mem_map]
      refine exists_congr fun row => ?_
      rw [Tables.mem_visibleIn, and_assoc]
      refine and_congr_right fun hrow => ?_
      obtain ⟨r, hr⟩ := h.holds row hrow
      rw [hr.isVisibleIn, hr.workspaceId, hr.isSystem, and_comm]
      simp [Cell.ofText]
    case read =>
      intro v hv
      obtain ⟨r, hr, rfl⟩ := List.mem_map.1 hv
      obtain ⟨row, hrow, hholds⟩ := (mem_records_iff hrs r).1 hr
      rintro env w ha rfl
      exact (Gives.run (read_of_visible ha h hmay hrow hholds) w.at_self).1
  · rintro cloudMode s env w after v rfl hsave
    have hend := save_shows env h cloudMode actor workspaceId s w w.at_self
    rw [hsave] at hend
    obtain ⟨hallowed, r, audit, hsaved, hv, htables⟩ := hend
    obtain ⟨_, hview, hid⟩ := viewOf_toStorage actor r.reread
    obtain rfl := Except.ok.inj (hview.symm.trans hv)
    rintro env' w' ha hw'
    rw [hid]
    exact (Gives.run (read_of_saved ha hallowed.manage hsaved.workspaceId hv)
      ⟨hw'.trans htables, rfl⟩).1

/-- The owner of a workspace lists a storage of it and a system storage, and makes another one. -/
theorem views_coherent_owner :
    let owner : Actor := ⟨.ofText "u", .member⟩
    let disk (id workspaceId : String) (isSystem : Bool) : Record :=
      ⟨id, workspaceId, "disk", isSystem, none, ⟨.localDisk, {}⟩⟩
    let t : Tables :=
      { storages := [(disk "1" "w" false).toRow, (disk "2" "x" true).toRow,
          (disk "3" "x" false).toRow]
        memberships := [⟨[("userId", .ofText "u"), ("workspaceId", .ofText "w"),
          ("role", .ofText "OWNER")]⟩]
        attachments := [], audit := [] }
    let env := Environment.undisturbed "key" (fun _ => "4") fun _ => []
    let s : Submission := ⟨none, "w", "new", false, ⟨.localDisk, {}⟩⟩
    (∃ views, ((readAll owner (.ofText "w")).run env (.start t)).1 = .ok views ∧
      views.length = 2 ∧ ∀ v ∈ views, ((read owner v.id).run env (.start t)).1 = .ok v) ∧
    ∃ v after, (save false owner (.ofText "w") s.toInput).run env (.start t) = (.ok v, after) ∧
      ((read owner v.id).run env (.start after.tables)).1 = .ok v := by
  intro owner disk t env s
  have hanswers : env.Answers := Environment.answers_undisturbed _ _ _
  have hnormal : t.IsNormal := by
    have hholds : ∀ r : Record, r.variant = ⟨.localDisk, {}⟩ → r.toRow.Holds r :=
      fun r hr => Row.holds_toRow (by rw [hr]; exact Variant.isNormal_iff.2 rfl)
    refine ⟨fun row hrow => ?_, ?_⟩
    · simp only [t, List.mem_cons, List.not_mem_nil, or_false] at hrow
      rcases hrow with rfl | rfl | rfl <;> exact ⟨_, hholds _ rfl⟩
    · show [Cell.ofText "1", Cell.ofText "2", Cell.ofText "3"].Nodup
      simp [Cell.ofText]
  obtain ⟨hlist, hsave⟩ := views_coherent hnormal owner "w"
  obtain ⟨views, hall, -, -, hread⟩ := hlist rfl
  have hlisted := hall env (.start t) hanswers rfl
  refine ⟨⟨views, hlisted, ?_, fun v hv => hread v hv env _ hanswers rfl⟩, ?_⟩
  · have hlength : (((readAll owner (.ofText "w")).run env (.start t)).1.toOption.map
        List.length) = some 2 := by decide +kernel
    rw [hlisted] at hlength
    exact Option.some.inj hlength
  · have hmade : ((save false owner (.ofText "w") s.toInput).run env (.start t)).1.toOption.isSome =
        true := by decide +kernel
    rcases hsaved : (save false owner (.ofText "w") s.toInput).run env (.start t) with
      ⟨e | v, after⟩ <;> rw [hsaved] at hmade
    · cases hmade
    · exact ⟨v, after, rfl, hsave false s env _ _ v rfl hsaved env _ hanswers rfl⟩

end Service

end Depository
