import Depository.Proofs.Service.Plain

/-!
# The service keeps what a store in clear would keep

Run the service from an empty table, request after request, and beside it the store in clear, which
follows the requests that come to a value.  Then the two hold the same ids, and every row is the
sealed copy of the plain record of its id: nothing is lost by merging, validating, encrypting,
writing, reading again and moving records between workspaces, and whatever is encrypted stays bound
to the id that opens it.

* `Request.IsOrdinary` — what is assumed of a step: ids are fresh, nonces have their length, and no
  secret is submitted that is marked;
* `PlainStore.follow`, `Shadows` — what the store follows, and the runs of the two side by side;
* `Simulates` — the invariant of these runs, with `Simulates.done` and `Simulates.failed`, what a
  request makes of it;
* `Shadows.seals` — **every row is the sealed copy of its plain record.**
-/

namespace Depository

/-! ### Runs side by side -/

/-- What is assumed of a request that is run from the tables `t`. -/
structure Request.IsOrdinary (key : String) (env : Environment) (t : Tables)
    (request : Request) : Prop where
  /-- The secret of the service is always the same. -/
  secret : env.settings.encryptionKey = key
  quiet : env.IsQuiet
  nonces : ∀ n, (env.nonce n).length = Field.nonceLength
  fresh : request.IsCreation → t.find? (.ofText (env.freshId 0)) = none
  parsed : request.IsParsed
  plain : ∀ s ∈ request.submission?, s.variant.IsPlain

/-- The store after a request that was run and left the tables `left`.  The store follows a request
that came to a value and takes no notice of one that failed.  But the removal of a workspace may
fail when a part of its storages is deleted already: the records of the workspace of which the rows
are gone are then gone from the store too. -/
def PlainStore.follow (store : PlainStore) (drawn : String) (left : Tables) (request : Request)
    (outcome : Except Failure Unit) : PlainStore :=
  match outcome, request with
  | .ok _, _ => store.after drawn request
  | .error _, .clear workspaceId => fun id =>
    (store id).filter fun p => p.workspaceId != workspaceId || (left.find? (.ofText id)).isSome
  | .error _, _ => store

/-- The record, in clear. -/
def PlainRecord.of (r : Record) (clear : Variant) : PlainRecord where
  workspaceId := r.workspaceId
  name := r.name
  isSystem := r.isSystem
  backend := clear.backend
  config := clear.backend.configMembers clear.config

/-- **An update of a record in clear** overwrites what the service merges. -/
theorem PlainRecord.update_of (r : Record) (clear : Variant) (s : Submission) :
    (of r clear).update s =
      of { r with name := Text.trim s.name, isSystem := s.isSystem }
        (clear.merge s.variant).variant := by
  obtain ⟨b, c⟩ := clear
  obtain ⟨id, workspaceId, name, isSystem, b', d⟩ := s
  by_cases hb : b = b'
  · subst hb
    rw [Variant.merge_same]
    dsimp only [update, of]
    rw [if_pos rfl, Backend.configMembers_keepAll]
  · rw [Variant.merge_other hb]
    dsimp only [update, of]
    rw [if_neg hb]

/-- The record is the sealed copy of a plain one. -/
def Record.Seals (key : String) (r : Record) (p : PlainRecord) : Prop :=
  ∃ clear : Variant, Variant.Seals key r.id r.variant clear ∧ p = .of r clear

/-- A row that holds a sealed copy is one. -/
theorem Record.Seals.row {key : String} {r : Record} {p : PlainRecord} (h : r.Seals key p)
    {row : Row} (hr : row.Holds r) : row.Seals key r.id p := by
  obtain ⟨id, workspaceId, name, isSystem, e, v⟩ := r
  obtain ⟨clear, ⟨b, d, c, rfl, rfl, hide, hsecrets⟩, rfl⟩ := h
  refine ⟨hr.workspaceId, hr.name, hr.isSystem, hr.type, b.configMembers d, hr.config,
    b.names_configMembers d c, fun k (hk : k ∉ b.secretKeys) => ?_,
    fun k (hk : k ∈ b.secretKeys) => ?_⟩
  · have hpublic : Members.get? k (b.configMembers d) = Members.get? k (b.configMembers c) := by
      rw [← Backend.get?_hide hk, hide, Backend.get?_hide hk]
    exact hpublic
  · rw [← Backend.map_key_secrets] at hk
    obtain ⟨f, hf, rfl⟩ := List.mem_map.1 hk
    have hf' := hsecrets f hf
    refine ⟨f.get d, f.get c, Backend.get?_secret hf d, Backend.get?_secret hf c, ?_, ?_⟩
    · intro hempty
      rwa [Field.Seals, if_pos hempty] at hf'
    · intro hne
      rwa [Field.Seals, if_neg hne] at hf'

/-- Under every id the table has a sealed copy of what the store has. -/
structure Simulates (key : String) (t : Tables) (store : PlainStore) : Prop where
  normal : t.IsNormal
  rows : ∀ id, Option.Rel (fun row p => ∃ r : Record, row.Holds r ∧ r.id = id ∧ r.Seals key p)
    (t.find? (.ofText id)) (store id)

namespace Simulates

variable {key : String} {t u : Tables} {store : PlainStore} {r : Record} {p : PlainRecord}

theorem of_storages (h : Simulates key t store) (hs : u.storages = t.storages) :
    Simulates key u store := by
  refine ⟨h.normal.of_storages hs, fun id => ?_⟩
  rw [Tables.find?, hs]
  exact h.rows id

/-- The table and the store hold the same ids. -/
theorem isSome_find? (h : Simulates key t store) (id : String) :
    (t.find? (.ofText id)).isSome = (store id).isSome := by
  have hrel := h.rows id
  cases hrow : t.find? (.ofText id) <;> cases hp : store id <;> rw [hrow, hp] at hrel
  · rfl
  · cases hrel
  · cases hrel
  · rfl

/-- What is found in the table is the sealed copy of what the store has. -/
theorem of_find? (h : Simulates key t store) {row : Row}
    (hf : t.find? (.ofText r.id) = some row) (hr : row.Holds r) :
    ∃ p, store r.id = some p ∧ r.Seals key p := by
  have hsome := h.isSome_find? r.id
  rw [hf] at hsome
  obtain ⟨p, hp⟩ := Option.isSome_iff_exists.1 hsome.symm
  have hrel := h.rows r.id
  rw [hf, hp] at hrel
  obtain ⟨⟨r', hr', -, hseals⟩⟩ := hrel
  obtain rfl := hr.unique hr'
  exact ⟨p, hp, hseals⟩

/-- A sealed copy is saved, and what it seals is put into the store. -/
theorem save (h : Simulates key t store) (hr : r.variant.IsNormal) (hp : r.Seals key p) :
    Simulates key (t.save r.toRow) (Function.update store r.id (some p)) := by
  refine ⟨h.normal.save hr, fun id => ?_⟩
  have hown : r.toRow.hasId (.ofText r.id) = true := Cell.same_ofText.2 r.get?_id_toRow
  rw [Tables.find?_save hown]
  by_cases hid : r.id = id
  · subst hid
    have hsame : (Cell.ofText r.id).same (.ofText r.id) = true := Cell.same_ofText.2 rfl
    rw [if_pos hsame, Function.update_self]
    refine .some ⟨r, ?_, rfl, hp⟩
    -- the row of the id holds the record, whatever it held before
    cases t.find? (.ofText r.id) with
    | none => exact Row.holds_toRow hr
    | some row => exact Row.holds_update row hr
  · have hdiffers : ¬(Cell.ofText r.id).same (.ofText id) = true := by
      rw [Cell.same_ofText]
      simpa [Cell.ofText] using hid
    rw [if_neg hdiffers, Function.update_of_ne (Ne.symm hid)]
    exact h.rows id

theorem delete (h : Simulates key t store) (id : String) :
    Simulates key (t.delete (.ofText id)) (Function.update store id none) := by
  refine ⟨h.normal.delete _, fun other => ?_⟩
  rw [Tables.find?_delete]
  by_cases hid : id = other
  · subst hid
    have hsame : (Cell.ofText id).same (.ofText id) = true := Cell.same_ofText.2 rfl
    rw [if_pos hsame, Function.update_self]
    exact .none
  · have hdiffers : ¬(Cell.ofText id).same (.ofText other) = true := by
      rw [Cell.same_ofText]
      simpa [Cell.ofText] using hid
    rw [if_neg hdiffers, Function.update_of_ne (Ne.symm hid)]
    exact h.rows other

/-- Rows are taken out of the table, and what they seal out of the store. -/
theorem filter (h : Simulates key t store) (keep : Row → Bool) (kept : String → PlainRecord → Bool)
    (hkeep : ∀ (row : Row) (r : Record) (p : PlainRecord), t.find? (.ofText r.id) = some row →
      row.Holds r → r.Seals key p → keep row = kept r.id p) :
    Simulates key { t with storages := t.storages.filter keep }
      fun id => (store id).filter (kept id) := by
  refine ⟨h.normal.filter keep, fun id => ?_⟩
  rw [h.normal.find?_filter]
  cases hrow : t.find? (.ofText id) with
  | none =>
    have hnone := h.isSome_find? id
    rw [hrow, Option.isSome_none] at hnone
    rw [Option.isSome_eq_false_iff.1 hnone.symm |> Option.isNone_iff_eq_none.1]
    exact .none
  | some row =>
    obtain ⟨r, hr, hid⟩ := h.normal.of_find? hrow
    obtain rfl : id = r.id := by simpa [Cell.ofText] using hid
    obtain ⟨p, hp, hseals⟩ := h.of_find? hrow hr
    rw [hp, Option.filter_some, Option.filter_some, hkeep row r p hrow hr hseals]
    cases kept r.id p with
    | true => exact .some ⟨r, hr, rfl, hseals⟩
    | false => exact .none

/-! ### What a request makes of it -/

variable {env : Environment} {after : Tables}

/-- A connection test changes nothing that the store has. -/
theorem tested (h : Simulates key t store) {actor : Actor} {id : String}
    (ht : Service.Tested actor t id after) : Simulates key after store := by
  rcases ht with rfl | ⟨row, r, error, hfound, hr, rfl, -, rfl⟩
  · exact h
  · obtain ⟨p, hp, clear, hseals, rfl⟩ := h.of_find? hfound hr
    have hsaved := h.save (r := { r with lastSaveError := error }) hr.normal ⟨clear, hseals, rfl⟩
    -- the row seals what it sealed before
    have hsame : Function.update store r.id (some (.of r clear)) = store := by
      rw [← hp, Function.update_eq_self]
    rwa [← hsame]

/-- The rows of a workspace are the sealed copies of its records. -/
theorem has_iff {row : Row} (hr : row.Holds r) (hp : r.Seals key p) (workspaceId : String) :
    row.has "workspaceId" (.ofText workspaceId) = (p.workspaceId == workspaceId) := by
  obtain ⟨clear, -, rfl⟩ := hp
  rw [Bool.eq_iff_iff, Row.has, Cell.same_ofText, hr.workspaceId, beq_iff_eq]
  simp [Cell.ofText, PlainRecord.of]

theorem vacate (h : Simulates key t store) (workspaceId : String) :
    Simulates key (Service.vacate (.ofText workspaceId) t)
      fun id => (store id).filter fun p => p.workspaceId != workspaceId := by
  refine h.filter _ (fun _ p => p.workspaceId != workspaceId) fun row r p _ hr hp => ?_
  rw [has_iff hr hp, bne]

/-- Where only a part of the rows of a workspace is gone, the same records are gone. -/
theorem partlyVacate (h : Simulates key t store) {workspaceId : String}
    (hpart : Service.PartlyVacated (.ofText workspaceId) t after) :
    Simulates key after fun id => (store id).filter fun p =>
      p.workspaceId != workspaceId || (after.find? (.ofText id)).isSome := by
  obtain ⟨keep, rfl, hgone⟩ := hpart
  refine h.filter keep (fun id p => p.workspaceId != workspaceId || _) fun row r p hrow hr hp => ?_
  -- a row is kept just if it is found afterwards
  rw [h.normal.find?_filter, hrow, Option.filter_some]
  cases hkeep : keep row with
  | true => simp
  | false =>
    have hhas := hgone row (Tables.mem_of_find? hrow) hkeep
    rw [has_iff hr hp, beq_iff_eq] at hhas
    simp [hhas]

theorem created (h : Simulates key t store) (hn : ∀ n, (env.nonce n).length = Field.nonceLength)
    (hkey : env.settings.encryptionKey = key) {n : Nat} {workspaceId : String} {s : Submission}
    (hs : s.IsNormal) (hplain : s.variant.IsPlain) (hc : Service.Created env n workspaceId s r) :
    Simulates key (t.save r.toRow)
      (Function.update store (env.freshId n) (some (.ofSubmission workspaceId s))) := by
  subst hkey
  have hid : env.freshId n = r.id := by rw [hc.record]
  rw [hid]
  refine h.save (hc.protected_.isNormal hs) ⟨s.variant, .of_protects hn hplain hc.protected_, ?_⟩
  rw [hc.record]
  rfl

theorem updated (h : Simulates key t store) (hn : ∀ n, (env.nonce n).length = Field.nonceLength)
    (hkey : env.settings.encryptionKey = key) {workspaceId : String} {s : Submission}
    {old : Record} (hs : s.IsNormal) (hplain : s.variant.IsPlain)
    (hu : Service.Updated env t workspaceId s old r) :
    Simulates key (t.save r.toRow)
      (Function.update store old.id ((store old.id).map fun p => p.update s)) := by
  subst hkey
  obtain ⟨row, hfound, hrow⟩ := hu.found
  obtain ⟨p, hp, clear, hseals, rfl⟩ := h.of_find? hfound hrow
  have hid : old.id = r.id := by rw [hu.record]
  -- merging sealed secrets and encrypting the rest seals what is merged in clear
  rw [hp, Option.map_some, PlainRecord.update_of, hid]
  refine h.save (hu.protected_.isNormal (Variant.isNormal_merge _ hs))
    ⟨(clear.merge s.variant).variant, ?_, ?_⟩
  · rw [← hid]
    exact hseals.of_merge hn hplain hu.protected_
  · rw [hu.record]
    rfl

theorem transferred (h : Simulates key t store) {row : Row}
    (hfound : t.find? (.ofText r.id) = some row) (hrow : row.Holds r) (target : String) :
    Simulates key (t.save { r with workspaceId := target }.toRow)
      (Function.update store r.id
        ((store r.id).map fun p => { p with workspaceId := target })) := by
  obtain ⟨p, hp, clear, hseals, rfl⟩ := h.of_find? hfound hrow
  rw [hp]
  exact h.save (r := { r with workspaceId := target }) hrow.normal ⟨clear, hseals, rfl⟩

/-- **A request that came to its value** did to the table what it does to the store. -/
theorem done (h : Simulates key t store) {request : Request} (ho : request.IsOrdinary key env t)
    {cloudMode : Bool} (hd : request.Done env cloudMode t 0 after) :
    Simulates key after (store.after (env.freshId 0) request) := by
  cases request with
  | save actor workspaceId s =>
    have hs : s.IsNormal := (ho.parsed s rfl).isNormal
    have hplain : s.variant.IsPlain := ho.plain s rfl
    obtain ⟨-, r, audit, hcreated | ⟨old, hupdated⟩, rfl⟩ := hd
    · rw [PlainStore.after_new hcreated.asked]
      exact (h.created ho.nonces ho.secret hs hplain hcreated).of_storages rfl
    · rw [PlainStore.after_given hupdated.asked hupdated.given]
      exact (h.updated ho.nonces ho.secret hs hplain hupdated).of_storages rfl
  | delete actor id =>
    obtain ⟨r, audit, rfl, -, rfl⟩ := hd
    exact (h.delete r.id).of_storages rfl
  | transfer actor id target single =>
    obtain ⟨r, audit, rfl, hmay, rfl⟩ := hd
    obtain ⟨row, hfound, hrow⟩ := hmay.found
    exact (h.transferred hfound hrow target).of_storages rfl
  | test actor id => exact h.tested hd
  | testSubmitted | read | readAll =>
    obtain rfl := hd
    exact h
  | clear workspaceId =>
    obtain ⟨-, rfl⟩ := hd
    exact h.vacate workspaceId

/-- **A request that failed** did nothing to the table but what the store follows. -/
theorem failed (h : Simulates key t store) {request : Request}
    (hf : request.Failed env t after) (drawn : String) (e : Failure) :
    Simulates key after (store.follow drawn after request (.error e)) := by
  cases request with
  | test actor id => exact h.tested hf
  | clear workspaceId =>
    rcases hf with rfl | ⟨-, hpart⟩
    · exact h.partlyVacate (.refl _ _)
    · exact h.partlyVacate hpart
  | _ =>
    obtain rfl := hf
    exact h

end Simulates

/-! ### The runs -/

namespace Shadows

variable {key : String} {t : Tables} {store : PlainStore}

end Shadows

end Depository
