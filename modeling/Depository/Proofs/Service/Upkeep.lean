import Depository.Proofs.Service.Keeps

/-!
# What lasts of stored records

Of a record only an update of its storage changes the name and the variant, and a new record only
comes from a submission that was accepted.  So a property of records lasts whatever is asked if it
holds of what a creation and an update make, and does not depend on the workspace of the record and
on the outcome of its last test (`Record.Lasts`).  That every request keeps it
(`Record.Lasts.program`) is seen by going through the operations once, for all such properties.

* `Tables.All` — every row holds a record with the property;
* `Record.Lasts` — what has to be shown of a property;
* `Record.Lasts.program` — **every request keeps it**, and `ReachableBy.all` — it holds of every row
  of the tables that requests reach.
-/

namespace Depository

/-- Every row of the table of storages holds a record of which `K` holds. -/
def Tables.All (K : Record → Prop) (t : Tables) : Prop :=
  ∀ row ∈ t.storages, ∃ r : Record, row.Holds r ∧ K r

/-- The property `K` of records lasts, whatever is asked with submissions of the kind `asks` in
environments of the kind `E`. -/
structure Record.Lasts (E : Environment → Prop) (asks : Submission → Prop) (K : Record → Prop) :
    Prop where
  quiet : ∀ env, E env → env.IsQuiet
  normal : ∀ r, K r → r.variant.IsNormal
  /-- It does not matter where the record belongs and how its last test ended. -/
  moved : ∀ r, K r → ∀ workspaceId error,
    K { r with workspaceId := workspaceId, lastSaveError := error }
  /-- An accepted submission, encrypted under a fresh id. -/
  created : ∀ s, asks s → Text.trim s.name ≠ "" → s.variant.validate true = .ok () →
    ∀ drawn env : Environment, E drawn → E env → ∀ n workspaceId variant,
      s.variant.Protects env.settings.encryptionKey (.ofText (drawn.freshId n)) env.nonce variant →
        K ⟨drawn.freshId n, workspaceId, Text.trim s.name, s.isSystem, none, variant⟩
  /-- An accepted update, merged into what is stored and encrypted under the same id. -/
  updated : ∀ s, asks s → Text.trim s.name ≠ "" → ∀ old, K old →
    (old.variant.merge s.variant).variant.validate (old.variant.merge s.variant).replaced =
        .ok () →
    ∀ env : Environment, E env → ∀ variant,
      (old.variant.merge s.variant).variant.Protects env.settings.encryptionKey (.ofText old.id)
          env.nonce variant →
        K { old with name := Text.trim s.name, isSystem := s.isSystem, variant }

namespace Tables

variable {K : Record → Prop} {t u : Tables}

theorem all_of_empty (h : t.storages = []) : t.All K := by
  intro row hrow
  rw [h] at hrow
  cases hrow

theorem All.of_storages (h : t.All K) (hs : u.storages = t.storages) : u.All K := by
  intro row hrow
  exact h row (hs ▸ hrow)

/-- The record that is put into the table has the property, whatever row it is put over. -/
theorem All.save (h : t.All K) {r : Record} (hn : r.variant.IsNormal) (hr : K r) :
    (t.save r.toRow).All K := by
  intro row hrow
  rcases mem_save hn hrow with hrow | hrow
  · exact h row hrow
  · exact ⟨r, hrow, hr⟩

theorem All.delete (h : t.All K) (id : Cell) : (t.delete id).All K :=
  fun row hrow => h row (List.mem_of_mem_filter hrow)

end Tables

namespace Service

open Operation

variable {E : Environment → Prop} {K : Record → Prop}

theorem find?_keeps (id : Cell) :
    (find? id).Keeps E (Tables.All K) fun found =>
      ∀ s ∈ found, ∃ r : Record, K r ∧ s = r.toStorage := by
  refine Keeps.bind (P := fun found => ∀ row ∈ found, ∃ r : Record, row.Holds r ∧ K r) ?_ ?_
  · refine keeps_request fun env w hE hw => ⟨hw, fun row hrow => ?_⟩
    exact hw row (Tables.mem_of_find? hrow)
  · rintro (_ | row) hfound
    · exact keeps_pure fun s hs => nomatch hs
    · obtain ⟨r, hrow, hr⟩ := hfound row rfl
      rw [loadOption_of_ofRow hrow.ofRow]
      refine keeps_pure fun s hs => ⟨r, hr, ?_⟩
      exact (Option.some.inj hs).symm

theorem get_keeps (id : Cell) :
    (get id).Keeps E (Tables.All K) fun s => ∃ r : Record, K r ∧ s = r.toStorage := by
  refine Keeps.bind (find?_keeps id) ?_
  rintro (_ | s) hfound
  · exact Keeps.bind (keeps_told id) fun _ _ => keeps_fail
  · exact keeps_pure (hfound s rfl)

theorem drawId_keeps :
    (request .drawId).Keeps E (Tables.All K) fun id =>
      ∃ (env : Environment) (n : Nat), E env ∧ id = env.freshId n :=
  keeps_request fun env w hE hw => ⟨hw, env, w.ids, hE, rfl⟩

theorem protect_keeps (owner : Cell) (v : Variant) :
    (request (.protect owner v)).Keeps E (Tables.All K) fun stored =>
      ∃ env : Environment, E env ∧
        v.Protects env.settings.encryptionKey owner env.nonce stored := by
  refine keeps_request fun env w hE hw => ?_
  have hprotect : env.answer w (.protect owner v) = env.protect owner v w := rfl
  rw [hprotect, Environment.protect]
  cases hfault : (v.protect env.settings.encryptionKey owner env.nonce w.nonces).fault with
  | none => exact ⟨hw, env, hE, w.nonces, hfault, rfl⟩
  | some fault => exact hw

end Service

namespace Record.Lasts

open Operation Service

variable {E : Environment → Prop} {asks : Submission → Prop} {K : Record → Prop}
  (hk : Record.Lasts E asks K)
include hk

/-! ### Parts -/

/-- An instruction that puts no row into the table of storages keeps what lasts. -/
theorem request_keeps {i : Instruction} (hi : ∀ row, i ≠ .saveStorage row) :
    (request i).Keeps E (Tables.All K) fun _ => True := by
  refine keeps_request fun env w hE hw => ?_
  have hall : (env.answer w i).2.tables.All K := by
    by_cases hdelete : ∃ id, i = .deleteStorage id
    · obtain ⟨id, rfl⟩ := hdelete
      exact Tables.All.delete hw id
    · exact hw.of_storages (storages_answer (hk.quiet env hE) w hi fun id h => hdelete ⟨id, h⟩)
  rcases ha : env.answer w i with ⟨a | a, w'⟩ <;> rw [ha] at hall
  · exact hall
  · exact ⟨hall, trivial⟩

/-- A record with the property may be stored, and it is what the operation goes on with. -/
theorem store_keeps {r : Record} (hr : K r) :
    (store r.toStorage).Keeps E (Tables.All K) fun s => s = r.toStorage := by
  rw [store, Record.toRow_toStorage]
  refine Keeps.bind (P := fun row => row = r.toRow) (keeps_pure rfl) ?_
  rintro _ rfl
  refine Keeps.bind (P := fun row => row = r.toRow) ?_ ?_
  · exact keeps_request fun env w hE hw => ⟨Tables.All.save hw (hk.normal r hr) hr, rfl⟩
  · rintro _ rfl
    rw [r.ofRow_toRow, Record.reread_of_isNormal (hk.normal r hr)]
    exact keeps_pure rfl

/-- What leaves the storages alone keeps what lasts. -/
theorem keeps_of_spares {α : Type} {o : Operation α} (h : o.Spares) :
    o.Keeps E (Tables.All K) fun _ => True :=
  h.keeps hk.quiet fun _ _ hs ht => Tables.All.of_storages ht hs

/-! ### Saving -/

variable {s : Submission}

theorem create_keeps (actor : Actor) (workspaceId : String) (hs : asks s)
    (hname : Text.trim s.name ≠ "") :
    (create actor (.ofText workspaceId) s.toInput).Keeps E (Tables.All K) fun _ => True := by
  refine Keeps.bind drawId_keeps fun id hid => ?_
  obtain ⟨drawn, n, hdrawn, rfl⟩ := hid
  refine Keeps.bind (keeps_lift _) fun name hn => ?_
  obtain rfl := Except.ok.inj hn
  refine Keeps.bind (keeps_lift _) fun submitted hsubmitted => ?_
  obtain rfl := Except.ok.inj hsubmitted
  refine Keeps.bind (keeps_lift _) fun _ hvalid => ?_
  refine Keeps.bind (protect_keeps _ _) fun variant hvariant => ?_
  obtain ⟨env, hE, hprotected⟩ := hvariant
  have hr := hk.created s hs hname hvalid drawn env hdrawn hE n workspaceId variant hprotected
  refine Keeps.bind (hk.store_keeps hr) ?_
  rintro _ rfl
  exact hk.keeps_of_spares (spares_report _ actor _ _ _)

theorem update_keeps (actor : Actor) (workspaceId id : Cell) (hs : asks s)
    (hname : Text.trim s.name ≠ "") {told : String} (hworkspace : workspaceId = .ofText told) :
    (update actor workspaceId id s.toInput).Keeps E (Tables.All K) fun _ => True := by
  subst hworkspace
  refine Keeps.bind (get_keeps id) ?_
  rintro _ ⟨old, hold, rfl⟩
  refine Keeps.bind (keeps_require _ _) fun _ _ => ?_
  refine Keeps.bind (keeps_require _ _) fun _ _ => ?_
  refine Keeps.bind (keeps_lift _) fun current hcurrent => ?_
  obtain rfl := Except.ok.inj hcurrent
  refine Keeps.bind (keeps_lift _) fun submitted hsubmitted => ?_
  obtain rfl := Except.ok.inj hsubmitted
  refine Keeps.bind (keeps_lift _) fun _ hvalid => ?_
  refine Keeps.bind (protect_keeps _ _) fun variant hvariant => ?_
  obtain ⟨env, hE, hprotected⟩ := hvariant
  refine Keeps.bind (keeps_lift _) fun name hn => ?_
  obtain rfl := Except.ok.inj hn
  have hr := hk.updated s hs hname old hold hvalid env hE variant hprotected
  refine Keeps.bind (hk.store_keeps hr) ?_
  rintro _ rfl
  exact hk.keeps_of_spares (spares_report _ actor _ _ _)

theorem save_keeps (cloudMode : Bool) (actor : Actor) (workspaceId : String) (hs : asks s) :
    (save cloudMode actor (.ofText workspaceId) s.toInput).Keeps E (Tables.All K)
      fun _ => True := by
  refine Keeps.bind (hk.keeps_of_spares (spares_requireManage _ actor _)) fun _ _ => ?_
  refine Keeps.bind (keeps_require _ _) fun _ _ => ?_
  refine Keeps.bind (keeps_require _ _) fun _ _ => ?_
  refine Keeps.bind (keeps_lift _) fun name hn => ?_
  obtain rfl := Except.ok.inj hn
  refine Keeps.bind (keeps_require _ _) fun _ hpass => ?_
  have hname : Text.trim s.name ≠ "" := by simpa using hpass
  refine Keeps.bind (P := fun _ => True) ?_ fun saved _ => ?_
  · rw [createOrUpdate]
    by_cases hid : s.toInput.id.isTruthy = true
    · rw [if_pos hid]
      exact hk.update_keeps actor _ _ hs hname rfl
    · rw [if_neg hid]
      exact hk.create_keeps actor workspaceId hs hname
  · exact Keeps.mono (keeps_lift _) fun _ _ => trivial

/-! ### Removing and transferring -/

theorem delete_keeps (actor : Actor) (id : Cell) :
    (delete actor id).Keeps E (Tables.All K) fun _ => True := by
  refine Keeps.bind (get_keeps id) ?_
  rintro _ ⟨r, -, rfl⟩
  refine Keeps.bind (hk.keeps_of_spares (spares_requireManage _ actor _)) fun _ _ => ?_
  refine Keeps.bind (keeps_require _ _) fun _ _ => ?_
  refine Keeps.bind (hk.request_keeps (by simp)) fun databases _ => ?_
  refine Keeps.bind (keeps_require _ _) fun _ _ => ?_
  refine Keeps.bind (hk.request_keeps (by simp)) fun _ _ => ?_
  refine Keeps.bind (keeps_told _) fun _ _ => ?_
  exact hk.keeps_of_spares (spares_tell _ actor _ _)

theorem transfer_keeps (actor : Actor) (id : Cell) (target : String) (single : Cell) :
    (transfer actor id (.ofText target) single).Keeps E (Tables.All K) fun _ => True := by
  refine Keeps.bind (get_keeps id) ?_
  rintro _ ⟨r, hr, rfl⟩
  refine Keeps.bind (keeps_require _ _) fun _ _ => ?_
  refine Keeps.bind (hk.keeps_of_spares (spares_requireManage _ actor _)) fun _ _ => ?_
  refine Keeps.bind (hk.keeps_of_spares (spares_requireManage _ actor _)) fun _ _ => ?_
  refine Keeps.bind (hk.request_keeps (by simp)) fun databases _ => ?_
  refine Keeps.bind (P := fun _ => True) ?_ fun _ _ => ?_
  · rw [requireDetached]
    split <;> exact Keeps.mono (keeps_require _ _) fun _ _ => trivial
  · let moved : Record := { r with workspaceId := target }
    have hmoved : K moved := hk.moved r hr target r.lastSaveError
    refine Keeps.bind (hk.store_keeps hmoved) fun _ _ => ?_
    refine Keeps.bind (keeps_told _) fun _ _ => ?_
    exact hk.keeps_of_spares (spares_tell _ actor _ _)

theorem deleteAll_keeps (storages : List Storage) :
    (deleteAll storages).Keeps E (Tables.All K) fun _ => True := by
  induction storages with
  | nil => exact keeps_pure trivial
  | cons s rest ih => exact Keeps.bind (hk.request_keeps (by simp)) fun _ _ => ih

theorem clearWorkspace_keeps (workspaceId : Cell) :
    (clearWorkspace workspaceId).Keeps E (Tables.All K) fun _ => True := by
  refine Keeps.bind (P := fun _ => True) ?_ fun storages _ => ?_
  · refine Keeps.bind (hk.request_keeps (by simp)) fun rows _ => ?_
    exact Keeps.mono (keeps_lift _) fun _ _ => trivial
  · refine Keeps.bind (keeps_require _ _) fun _ _ => ?_
    refine Keeps.bind (hk.deleteAll_keeps _) fun _ _ => ?_
    exact hk.keeps_of_spares (Spares.bind (spares_told _) fun _ => spares_log _)

/-! ### Testing -/

theorem recordOutcome_keeps (id : Cell) (error : Option String) :
    (recordOutcome id error).Keeps E (Tables.All K) fun _ => True := by
  refine Keeps.bind (find?_keeps id) ?_
  rintro (_ | s) hfound
  · exact keeps_pure trivial
  · obtain ⟨r, hr, rfl⟩ := hfound s rfl
    have hstore : ∀ error, (store { r with lastSaveError := error }.toStorage >>=
        fun _ => pure ()).Keeps E (Tables.All K) fun _ => True := by
      intro error
      have htested : K { r with lastSaveError := error } := hk.moved r hr r.workspaceId error
      exact Keeps.bind (hk.store_keeps htested) fun _ _ => keeps_pure trivial
    dsimp only
    split
    · exact hstore none
    · exact hstore (some "")
    · rename_i text _
      refine Keeps.bind (keeps_told _) fun _ _ => ?_
      exact Keeps.bind (hk.keeps_of_spares (spares_log _)) fun _ _ => hstore (some text)

theorem testStored_keeps (actor : Actor) (id : Cell) :
    (testStored actor id).Keeps E (Tables.All K) fun _ => True := by
  refine Keeps.bind (get_keeps id) ?_
  rintro _ ⟨r, -, rfl⟩
  refine Keeps.bind (hk.keeps_of_spares (spares_requireView _ actor _)) fun _ _ => ?_
  have hprobe : (probe r.toStorage.id r.toStorage.variant).Keeps E (Tables.All K) fun _ => True :=
    hk.request_keeps (by simp)
  refine Keeps.bind (Keeps.attempt hprobe) ?_
  rintro (e | a) _
  · refine Keeps.bind (Keeps.attempt (hk.recordOutcome_keeps id _)) ?_
    rintro (e' | a) _
    · refine hk.keeps_of_spares (Spares.bind (spares_told _) fun _ => ?_)
      exact Spares.bind (spares_log _) fun _ => spares_fail _
    · exact keeps_fail
  · exact hk.recordOutcome_keeps id none

/-! ### Every request -/

/-- **Every request keeps what lasts**, whatever else goes on. -/
theorem program (cloudMode : Bool) {request : Request} (hr : ∀ s ∈ request.submission?, asks s) :
    (request.program cloudMode).Keeps E (Tables.All K) fun _ => True := by
  cases request with
  | save actor workspaceId s =>
    exact Keeps.bind (hk.save_keeps cloudMode actor workspaceId (hr s rfl)) fun _ _ =>
      keeps_pure trivial
  | delete actor id => exact hk.delete_keeps actor _
  | transfer actor id target single => exact hk.transfer_keeps actor _ target _
  | test actor id => exact hk.testStored_keeps actor _
  | testSubmitted actor s => exact hk.keeps_of_spares (spares_testSubmitted cloudMode actor _)
  | read actor id =>
    exact Keeps.bind (hk.keeps_of_spares (spares_read actor _)) fun _ _ => keeps_pure trivial
  | readAll actor workspaceId =>
    exact Keeps.bind (hk.keeps_of_spares (spares_readAll actor _)) fun _ _ => keeps_pure trivial
  | clear workspaceId => exact hk.clearWorkspace_keeps _

end Record.Lasts

/-- **What lasts holds of every row** of the tables that requests reach. -/
theorem ReachableBy.all {E : Environment → Prop} {asks : Submission → Prop} {K : Record → Prop}
    (hk : Record.Lasts E asks K) {t : Tables} {pool : List (Operation Unit)}
    (h : ReachableBy (fun request => ∀ s ∈ request.submission?, asks s) E t pool) : t.All K :=
  (h.keeps (fun _ => Tables.all_of_empty) (fun _ _ hs ht => Tables.All.of_storages ht hs)
    fun cloudMode _ hr => hk.program cloudMode hr).1

end Depository
