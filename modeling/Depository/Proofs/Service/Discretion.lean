import Depository.Proofs.Backend.Interchange
import Depository.Proofs.Service.Lockstep
import Depository.Proofs.Service.Save
import Depository.Proofs.Service.Secrecy

/-!
# What saving tells

Of two submissions that are the same but for the values of their secrets, saving the one and saving
the other goes on in lockstep: it comes to the same view or to the same failure, and writes the same
lines to the log and the same entries to the audit log.  Up to the change of the table nothing but
nonces is used up, and as many by both.  From there on the worlds differ in one row, the one that is
saved, and in nothing but the secrets of it.

The submissions have to agree in what is looked at of their secrets: which are empty, which are
marked as stored, and what is found in the content of those that are looked into
(`Input.Interchangeable`).  Of a document that cannot be read, that includes why: the reason is told
just as the reader tells it, and it depends on the document (`Service.save_tells_faults`).

* `Row.DiffersInSecrets`, `DiffersInRow` — rows and tables that differ in secrets;
* `Environment.IsBlind` — whether a row is taken does not depend on secrets in it;
* `Service.store_lockstep` — the step at which the worlds part;
* `Service.save_discreet` — **saving does not tell secrets apart**.
-/

namespace Depository

/-! ### Rows that differ in secrets -/

/-- The rows differ in nothing but the secrets of their configurations. -/
structure Row.DiffersInSecrets (row other : Row) : Prop where
  column : ∀ column ≠ "config", row.get? column = other.get? column
  config : ∃ b : Backend, row.get? "type" = .ofText b.name ∧ ∀ key ∉ b.secretKeys,
    (row.get? "config").bind (Json.get? key) = (other.get? "config").bind (Json.get? key)

/-- The tables are the same, or they differ in secrets of one row of an id. -/
def DiffersInRow (id : Cell) (rows others : List Row) : Prop :=
  rows = others ∨ ∃ before row other after, rows = before ++ row :: after ∧
    others = before ++ other :: after ∧ row.get? "id" = id ∧ row.DiffersInSecrets other

/-- Whether a question to save a row fails does not depend on secrets in the row. -/
def Environment.IsBlind (env : Environment) : Prop :=
  ∀ k row other, row.DiffersInSecrets other →
    env.fault k (.saveStorage row) = env.fault k (.saveStorage other)

/-- The storages differ in nothing but the secrets of their variants. -/
structure Storage.DiffersInSecrets (s s' : Storage) : Prop where
  id : s.id = s'.id
  workspaceId : s.workspaceId = s'.workspaceId
  name : s.name = s'.name
  isSystem : s.isSystem = s'.isSystem
  lastSaveError : s.lastSaveError = s'.lastSaveError
  variant : ∃ v v', s.variant = some v ∧ s'.variant = some v' ∧ v.hide = v'.hide

/-- The submissions are the same but for the values of their secrets. -/
structure Input.Interchangeable (i i' : Input) : Prop where
  id : i.id = i'.id
  workspaceId : i.workspaceId = i'.workspaceId
  name : i.name = i'.name
  isSystem : i.isSystem = i'.isSystem
  variant : Option.Rel Variant.Interchangeable i.variant i'.variant

namespace Storage

variable {s : Storage} {v v' : Variant}

/-- The row of a storage with a variant. -/
def rowWith (s : Storage) (v : Variant) : Row :=
  ⟨[("id", s.id), ("workspaceId", s.workspaceId), ("name", s.name), ("type", .ofText v.typeName),
    ("isSystem", s.isSystem), ("lastSaveError", s.lastSaveError), ("config", some v.payload)]⟩

theorem toRow_with (s : Storage) (v : Variant) :
    toRow { s with variant := some v } = .ok (s.rowWith v) := rfl

/-- The row is read as the storage, with the variant as it is read again. -/
theorem ofRow_rowWith (s : Storage) (v : Variant) :
    ofRow (s.rowWith v) =
      .ok { s with variant := some ⟨v.backend, v.backend.trim v.config⟩ } := by
  have hrow : ofRow (s.rowWith v) = (do
      let variant ← Variant.parseNamed v.typeName (some v.payload)
      return { s with variant }) := rfl
  rw [hrow, v.parseNamed_payload]
  rfl

/-- Rows with variants that differ in secrets have the same in every other column. -/
theorem get?_rowWith (h : v.hide = v'.hide) {column : String} (hc : column ≠ "config") :
    Members.get? column (s.rowWith v).columns = Members.get? column (s.rowWith v').columns := by
  have htype : v.typeName = v'.typeName := congrArg (fun v => v.backend.name) h
  simp only [rowWith, Members.get?, htype, hc.symm, if_false]

/-- Of variants that differ in secrets, the members that are not secret are stored alike. -/
theorem get?_payload (h : v.hide = v'.hide) {key : String} (hk : key ∉ v.backend.secretKeys) :
    v.payload.get? key = v'.payload.get? key := by
  obtain ⟨b, c⟩ := v
  obtain ⟨b', d⟩ := v'
  obtain rfl : b = b' := congrArg Variant.backend h
  have hide : b.hide c = b.hide d := by simpa [Variant.hide] using h
  have hc := Backend.get?_hide hk c
  rw [hide] at hc
  exact hc.symm.trans (Backend.get?_hide hk d)

end Storage

namespace Row

variable {s : Storage} {v v' : Variant}

/-- The rows of a storage with variants that differ in secrets differ in secrets, and so do the rows
that they are put over. -/
theorem differs_rowWith (h : v.hide = v'.hide) :
    (s.rowWith v).DiffersInSecrets (s.rowWith v') ∧
      ∀ r : Row, (r.update (s.rowWith v)).DiffersInSecrets (r.update (s.rowWith v')) := by
  refine ⟨⟨fun column hc => ?_, v.backend, rfl, fun key hk => Storage.get?_payload h hk⟩,
    fun r => ⟨fun column hc => ?_, v.backend, ?_, fun key hk => ?_⟩⟩
  · rw [get?, get?, Storage.get?_rowWith h hc]
  · rw [get?_update, get?_update, Storage.get?_rowWith h hc]
  · rw [get?_update]
    rfl
  · rw [get?_update, get?_update]
    exact Storage.get?_payload h hk

/-- **Putting rows that differ in secrets** makes tables that differ in secrets of one row. -/
theorem put_differs (h : v.hide = v'.hide) (rows : List Row) :
    DiffersInRow s.id (put (s.rowWith v) rows) (put (s.rowWith v') rows) := by
  obtain ⟨hnew, hover⟩ := differs_rowWith (s := s) h
  refine .inr ?_
  induction rows with
  | nil => exact ⟨[], s.rowWith v, s.rowWith v', [], rfl, rfl, rfl, hnew⟩
  | cons r rest ih =>
    -- both rows have the same id, so both are put over the same row
    have hid : ∀ v : Variant, (s.rowWith v).get? "id" = s.id := fun _ => rfl
    rw [put, put, hid, hid]
    by_cases hr : r.hasId s.id = true
    · rw [if_pos hr, if_pos hr]
      refine ⟨[], _, _, rest, rfl, rfl, ?_, hover r⟩
      rw [get?_update]
      rfl
    · rw [if_neg hr, if_neg hr]
      obtain ⟨before, row, other, after, hput, hput', hrest⟩ := ih
      rw [hput, hput']
      exact ⟨r :: before, row, other, after, rfl, rfl, hrest⟩

end Row

theorem DiffersInRow.refl (id : Cell) (rows : List Row) : DiffersInRow id rows rows := .inl rfl

theorem World.parts_refl (id : Cell) (w : World) : w.Parts (DiffersInRow id) w :=
  .refl (DiffersInRow.refl id) w

namespace Operation

variable {α : Type} {env : Environment} {t : Tables} {n : Nat} {o : Operation α} {P : α → Prop}
  {F : World → World → Prop}

/-- What only reads comes before anything else, in one world. -/
theorem Reads.lockstep (h : o.Reads env t n P) {w : World} (hw : w.At t n) (hF : ∀ v, F v v) :
    Lockstep env w w o o F fun a b v v' => a = b ∧ v = v' ∧ v.At t n ∧ P a := by
  refine Lockstep.mono (lockstep_self o hF) (fun _ _ h => h) ?_
  rintro a _ v _ ⟨rfl, rfl, hrun⟩
  have hend := h w hw
  rw [hrun] at hend
  exact ⟨rfl, rfl, hend⟩

end Operation

namespace Service

open Operation

variable {env : Environment} {v v' : Variant} {w : World}

/-! ### Encrypting and storing -/

/-- Secrets are encrypted with the same nonces, or fail to be encrypted for the same reason. -/
theorem protect_lockstep (h : v.Interchangeable v') (owner : Cell) {F : World → World → Prop}
    (hF : ∀ u, F u u) :
    Lockstep env w w (request (.protect owner v)) (request (.protect owner v')) F
      fun p p' u u' => p.hide = p'.hide ∧ u = u' ∧ u.At w.tables w.ids := by
  refine lockstep_request rfl (hF _) ?_
  obtain ⟨hused, hfault, hhide⟩ := h.protect env.settings.encryptionKey owner env.nonce w.nonces
  show EndsAlike _ _ (env.protect owner v _) (env.protect owner v' _)
  rw [Environment.protect, Environment.protect]
  dsimp only
  rw [← hused, ← hfault]
  cases (v.protect env.settings.encryptionKey owner env.nonce w.nonces).fault with
  | none => exact ⟨hhide, rfl, rfl, rfl⟩
  | some fault => exact ⟨rfl, hF _⟩

/-- **The step at which the worlds part**: rows that differ in secrets are stored. -/
theorem store_lockstep (hblind : env.IsBlind) (h : v.hide = v'.hide) (s : Storage)
    (hid : (s.rowWith v).isIdentified = true) :
    Lockstep env w w (store { s with variant := some v }) (store { s with variant := some v' })
      (World.Parts (DiffersInRow s.id)) fun a b u u' =>
        a.DiffersInSecrets b ∧ u.Parts (DiffersInRow s.id) u' := by
  have hid' : (s.rowWith v').isIdentified = true := hid
  refine Lockstep.bind (R := fun row row' u u' =>
    row = s.rowWith v ∧ row' = s.rowWith v' ∧ u = w ∧ u' = w)
    (lockstep_lift ?_ (World.parts_refl s.id w)) ?_
  · rw [Storage.toRow_with, Storage.toRow_with]
    exact ⟨rfl, rfl, rfl, rfl⟩
  rintro _ _ _ _ ⟨rfl, rfl, rfl, rfl⟩
  refine Lockstep.bind (R := fun row row' u u' =>
    row = s.rowWith v ∧ row' = s.rowWith v' ∧ u.Parts (DiffersInRow s.id) u') ?_ ?_
  · refine lockstep_request (hblind _ _ _ (Row.differs_rowWith h).1) (World.parts_refl s.id _) ?_
    have hanswer : ∀ (row : Row) (w : World), row.isIdentified = true →
        env.answer w (.saveStorage row) = (.ok row, w.save row) := by
      intro row w hrow
      show (Except.ok (env.identify row w).1,
        (env.identify row w).2.save (env.identify row w).1) = _
      rw [Environment.identify, if_pos hrow]
    rw [hanswer _ _ hid, hanswer _ _ hid']
    exact ⟨rfl, rfl, Row.put_differs h _, rfl, rfl, rfl, rfl, rfl, rfl, rfl, rfl⟩
  · rintro _ _ u u' ⟨rfl, rfl, hparts⟩
    refine lockstep_lift ?_ hparts
    rw [Storage.ofRow_rowWith, Storage.ofRow_rowWith]
    refine ⟨⟨rfl, rfl, rfl, rfl, rfl, _, _, rfl, rfl, ?_⟩, hparts⟩
    obtain ⟨b, c⟩ := v
    obtain ⟨b', d⟩ := v'
    obtain rfl : b = b' := congrArg Variant.backend h
    have hide : b.hide c = b.hide d := by simpa [Variant.hide] using h
    refine congrArg (Variant.mk b) ?_
    show b.hide (b.trim c) = b.hide (b.trim d)
    rw [← b.trim_hide, ← b.trim_hide, hide]

/-! ### Telling what was saved -/

/-- What is told of a saved storage does not depend on its secrets. -/
theorem report_lockstep {D : List Row → List Row → Prop} {u u' : World} {s s' : Storage}
    (h : s.DiffersInSecrets s') (hparts : u.Parts D u') (actor : Actor) (workspaceId : Cell)
    (line : String → String → String → LogLine) (message : String) :
    Lockstep env u u'
      (do
        let known ← lift s.knownVariant
        log (line known.typeName (← told s.id) (← told workspaceId))
        recordAudit actor workspaceId (message ++ (← told s.name))
        return s)
      (do
        let known ← lift s'.knownVariant
        log (line known.typeName (← told s'.id) (← told workspaceId))
        recordAudit actor workspaceId (message ++ (← told s'.name))
        return s')
      (World.Parts D) fun a b u u' => a.DiffersInSecrets b ∧ u.Parts D u' := by
  obtain ⟨v, v', hv, hv', hhide⟩ := h.variant
  have hknown : ∀ {s : Storage} {v : Variant}, s.variant = some v → s.knownVariant = .ok v :=
    fun hs => by rw [Storage.knownVariant, hs]
  have htype : v.typeName = v'.typeName := congrArg (fun v => v.backend.name) hhide
  rw [hknown hv, hknown hv', ← h.id, ← h.name]
  refine Lockstep.bind (R := fun a b u u' => a.typeName = b.typeName ∧ u.Parts D u')
    (lockstep_lift ⟨htype, hparts⟩ hparts) ?_
  rintro k k' u u' ⟨hk, hparts⟩
  rw [hk]
  refine Lockstep.bind ((asks_told s.id).lockstep hparts) ?_
  rintro id _ u u' ⟨rfl, hparts⟩
  refine Lockstep.bind ((asks_told workspaceId).lockstep hparts) ?_
  rintro workspace _ u u' ⟨rfl, hparts⟩
  refine Lockstep.bind (Asks.lockstep (asks_request trivial) hparts) ?_
  rintro _ _ u u' ⟨-, hparts⟩
  refine Lockstep.bind ((asks_told s.name).lockstep hparts) ?_
  rintro name _ u u' ⟨rfl, hparts⟩
  refine Lockstep.bind (Asks.lockstep (recordAudit_asks (fun _ => trivial) (fun _ => trivial) actor
    workspaceId _) hparts) ?_
  rintro _ _ u u' ⟨-, hparts⟩
  exact lockstep_pure ⟨h, hparts⟩

/-- What an actor sees of a storage does not depend on its secrets. -/
theorem viewOf_discreet {s s' : Storage} (h : s.DiffersInSecrets s') (actor : Actor) :
    viewOf actor s = viewOf actor s' := by
  obtain ⟨v, v', hv, hv', hhide⟩ := h.variant
  have htype : v.typeName = v'.typeName := congrArg (fun v => v.backend.name) hhide
  rw [viewOf_eq hv, viewOf_eq hv']
  simp only [viewWith, Storage.isShared, h.id, h.workspaceId, h.name, h.isSystem, h.lastSaveError,
    htype, hhide]

/-! ### Creating and updating -/

section Saving

variable {i i' : Input}

theorem trimmedName_eq (h : i.Interchangeable i') : i.trimmedName = i'.trimmedName := by
  rw [Input.trimmedName, Input.trimmedName, h.name]

/-- Both variants are known, or neither. -/
theorem knownVariant_alike (h : i.Interchangeable i') :
    Outcomes Variant.Interchangeable i.knownVariant i'.knownVariant := by
  have hv := h.variant
  rw [Input.knownVariant, Input.knownVariant]
  cases hi : i.variant <;> cases hi' : i'.variant <;> rw [hi, hi'] at hv
  · exact Eq.refl _
  · cases hv
  · cases hv
  · cases hv
    assumption

theorem requireLocal_eq {v v' : Option Variant} (h : Option.Rel Variant.Interchangeable v v')
    {cloudMode : Bool} {actor : Actor} :
    requireLocal cloudMode actor v = requireLocal cloudMode actor v' := by
  cases h with
  | none => rfl
  | some hv => simp only [requireLocal, Option.any_some, hv.backend]

theorem create_lockstep (hblind : env.IsBlind) (h : i.Interchangeable i') (actor : Actor)
    (workspaceId : Cell) :
    Lockstep env w w (create actor workspaceId i) (create actor workspaceId i')
      (World.Parts (DiffersInRow (.ofText (env.freshId w.ids)))) fun a b u u' =>
        a.DiffersInSecrets b ∧ u.Parts (DiffersInRow (.ofText (env.freshId w.ids))) u' := by
  have hsame := World.parts_refl (.ofText (env.freshId w.ids))
  refine Lockstep.bind (lockstep_self _ hsame) ?_
  rintro id _ u _ ⟨rfl, rfl, hdrawn⟩
  have hdraw : (request Instruction.drawId).run env w = (.ok (env.freshId w.ids),
    { w with ids := w.ids + 1, instructions := w.instructions + 1 }) := rfl
  obtain rfl : env.freshId w.ids = id := Except.ok.inj (congrArg Prod.fst (hdraw.symm.trans hdrawn))
  rw [trimmedName_eq h]
  refine Lockstep.bind (Reads.lockstep (reads_lift _) u.at_self hsame) ?_
  rintro name _ u _ ⟨rfl, rfl, -⟩
  refine Lockstep.bind (R := fun a b v v' => a.Interchangeable b ∧ v = v')
    (lockstep_lift ((knownVariant_alike h).mono fun _ _ hab => ⟨hab, rfl⟩) (hsame u)) ?_
  rintro submitted submitted' u _ ⟨hsubmitted, rfl⟩
  rw [hsubmitted.validate]
  refine Lockstep.bind (Reads.lockstep (reads_lift _) u.at_self hsame) ?_
  rintro _ _ u _ ⟨-, rfl, -⟩
  refine Lockstep.bind (protect_lockstep hsubmitted _ hsame) ?_
  rintro v v' u _ ⟨hhide, rfl, -⟩
  rw [h.isSystem]
  let s : Storage :=
    { id := .ofText (env.freshId w.ids), workspaceId, name := .ofText name, isSystem := i'.isSystem
      lastSaveError := Storage.testOutcome none, variant := none }
  refine Lockstep.bind (store_lockstep hblind hhide s rfl) ?_
  rintro saved saved' u u' ⟨hsaved, hparts⟩
  exact report_lockstep hsaved hparts actor workspaceId _ _

theorem update_lockstep (hblind : env.IsBlind) (h : i.Interchangeable i') (actor : Actor)
    (workspaceId : Cell) {id : Cell} (hid : id.isTruthy = true) :
    Lockstep env w w (update actor workspaceId id i) (update actor workspaceId id i')
      (World.Parts (DiffersInRow id)) fun a b u u' =>
        a.DiffersInSecrets b ∧ u.Parts (DiffersInRow id) u' := by
  have hsame := World.parts_refl id
  refine Lockstep.bind (Reads.lockstep (get_loads id) w.at_self hsame) ?_
  rintro existing _ u _ ⟨rfl, rfl, -, row, hfound, hread⟩
  obtain rfl : existing.id = id := Tables.id_of_find? hfound hread
  rw [h.isSystem]
  refine Lockstep.bind (Reads.lockstep (reads_require _ _) u.at_self hsame) ?_
  rintro _ _ u _ ⟨-, rfl, -⟩
  refine Lockstep.bind (Reads.lockstep (reads_require _ _) u.at_self hsame) ?_
  rintro _ _ u _ ⟨-, rfl, -⟩
  refine Lockstep.bind (Reads.lockstep (reads_lift _) u.at_self hsame) ?_
  rintro current _ u _ ⟨rfl, rfl, -⟩
  refine Lockstep.bind (R := fun a b v v' => a.Interchangeable b ∧ v = v')
    (lockstep_lift ((knownVariant_alike h).mono fun _ _ hab => ⟨hab, rfl⟩) (hsame u)) ?_
  rintro submitted submitted' u _ ⟨hsubmitted, rfl⟩
  obtain ⟨hmerged, hreplaced⟩ := hsubmitted.merge current
  dsimp only
  rw [hmerged.validate, hreplaced]
  refine Lockstep.bind (Reads.lockstep (reads_lift _) u.at_self hsame) ?_
  rintro _ _ u _ ⟨-, rfl, -⟩
  refine Lockstep.bind (protect_lockstep hmerged _ hsame) ?_
  rintro v v' u _ ⟨hhide, rfl, -⟩
  rw [trimmedName_eq h]
  refine Lockstep.bind (Reads.lockstep (reads_lift _) u.at_self hsame) ?_
  rintro name _ u _ ⟨rfl, rfl, -⟩
  let s : Storage := { existing with name := .ofText name, isSystem := i'.isSystem }
  have hidentified : (s.rowWith v).isIdentified = true := by
    have hget : (s.rowWith v).get? "id" = existing.id := rfl
    rw [Row.isIdentified, hget]
    cases hcell : existing.id with
    | none => simp [hcell, Cell.isTruthy] at hid
    | some j => cases j <;> simp_all [Cell.isTruthy, Json.isTruthy]
  refine Lockstep.bind (store_lockstep hblind hhide s hidentified) ?_
  rintro saved saved' u u' ⟨hsaved, hparts⟩
  exact report_lockstep hsaved hparts actor workspaceId _ _

/-- The id of the row that is saved: the one that was submitted, or the next fresh one. -/
def savedId (env : Environment) (w : World) (i : Input) : Cell :=
  if i.id.isTruthy then i.id else .ofText (env.freshId w.ids)

theorem createOrUpdate_lockstep (hblind : env.IsBlind) (h : i.Interchangeable i') (actor : Actor)
    (workspaceId : Cell) {u : World} (hids : u.ids = w.ids) :
    Lockstep env u u (createOrUpdate actor workspaceId i) (createOrUpdate actor workspaceId i')
      (World.Parts (DiffersInRow (savedId env w i))) fun a b u u' =>
        a.DiffersInSecrets b ∧ u.Parts (DiffersInRow (savedId env w i)) u' := by
  rw [createOrUpdate, createOrUpdate, ← h.id, savedId, ← hids]
  by_cases hid : i.id.isTruthy = true
  · rw [if_pos hid, if_pos hid, if_pos hid]
    exact update_lockstep hblind h actor workspaceId hid
  · rw [if_neg hid, if_neg hid, if_neg hid]
    exact create_lockstep hblind h actor workspaceId

theorem save_lockstep (hblind : env.IsBlind) (h : i.Interchangeable i') (cloudMode : Bool)
    (actor : Actor) (workspaceId : Cell) :
    Lockstep env w w (save cloudMode actor workspaceId i) (save cloudMode actor workspaceId i')
      (World.Parts (DiffersInRow (savedId env w i))) fun a b u u' =>
        a = b ∧ u.Parts (DiffersInRow (savedId env w i)) u' := by
  have hsame := World.parts_refl (savedId env w i)
  -- every check looks at the same, and nothing is used up by it
  refine Lockstep.bind (Reads.lockstep (requireManage_reads _ _ _) w.at_self hsame) ?_
  rintro _ _ u _ ⟨-, rfl, hu, -⟩
  rw [requireLocal_eq h.variant, h.isSystem, trimmedName_eq h]
  refine Lockstep.bind (Reads.lockstep (reads_require _ _) hu hsame) ?_
  rintro _ _ u _ ⟨-, rfl, hu, -⟩
  refine Lockstep.bind (Reads.lockstep (requireSystem_passes _ _) hu hsame) ?_
  rintro _ _ u _ ⟨-, rfl, hu, -⟩
  refine Lockstep.bind (Reads.lockstep (reads_lift _) hu hsame) ?_
  rintro name _ u _ ⟨rfl, rfl, hu, -⟩
  refine Lockstep.bind (Reads.lockstep (reads_require _ _) hu hsame) ?_
  rintro _ _ u _ ⟨-, rfl, hu, -⟩
  refine Lockstep.bind (createOrUpdate_lockstep hblind h actor workspaceId hu.ids) ?_
  rintro saved saved' u u' ⟨hsaved, hparts⟩
  refine lockstep_lift ?_ hparts
  rw [viewOf_discreet hsaved]
  exact .refl (fun _ => ⟨rfl, hparts⟩) _

/-- **Saving does not tell secrets apart.**  In an environment in which it does not depend on
secrets whether a row is taken, let the same actor save, in the same workspace and from the same
world, two submissions that are the same but for the values of their secrets.  Then he is answered
the same view or the same failure; the lines of the log, the entries of the audit log, the
memberships and everything that was used up are the same; and the rows of storages are the same, or
they differ in the row that was saved, and there in secrets only. -/
theorem save_discreet (hblind : env.IsBlind) (h : i.Interchangeable i') (cloudMode : Bool)
    (actor : Actor) (workspaceId : Cell) (w : World) :
    let saved := (save cloudMode actor workspaceId i).run env w
    let saved' := (save cloudMode actor workspaceId i').run env w
    saved.1 = saved'.1 ∧ saved.2.Parts (DiffersInRow (savedId env w i)) saved'.2 := by
  intro saved saved'
  have hend : EndsAlike _ _ saved saved' := save_lockstep hblind h cloudMode actor workspaceId
  obtain ⟨x, v⟩ := saved
  obtain ⟨y, v'⟩ := saved'
  cases x <;> cases y
  · exact ⟨congrArg Except.error hend.1, hend.2⟩
  · exact hend.elim
  · exact hend.elim
  · exact ⟨congrArg Except.ok hend.1, hend.2⟩

end Saving

/-- A storage on an FTP server is made, with one password or with another one. -/
theorem save_discreet_password :
    let env := Environment.undisturbed "key" (fun _ => "1") fun _ => List.replicate 12 0
    let admin : Actor := ⟨.ofText "u", .admin⟩
    let server (password : String) : Submission :=
      ⟨none, "w", "backups", false, ⟨.ftp, ⟨"host", 21, "user", password, false, false, ""⟩⟩⟩
    let empty := World.start ⟨[], [], [], []⟩
    ∃ v, ((save true admin (.ofText "w") (server "secret").toInput).run env empty).1 = .ok v ∧
      ((save true admin (.ofText "w") (server "other").toInput).run env empty).1 = .ok v := by
  intro env admin server empty
  have hblind : env.IsBlind := fun _ _ _ _ => rfl
  have hpassword : Backend.ftp.Interchangeable ⟨"host", 21, "user", "secret", false, false, ""⟩
      ⟨"host", 21, "user", "other", false, false, ""⟩ := by
    refine ⟨rfl, ?_, ?_, rfl⟩ <;> simp only [Backend.secrets, List.forall_mem_singleton] <;> decide
  have hserver : (server "secret").toInput.Interchangeable (server "other").toInput :=
    ⟨rfl, rfl, rfl, rfl, .some ⟨.ftp, _, _, rfl, rfl, hpassword⟩⟩
  have hmade : ((save true admin (.ofText "w") (server "secret").toInput).run env
      empty).1.toOption.isSome = true := by decide +kernel
  obtain ⟨hsame, -⟩ := save_discreet hblind hserver true admin (.ofText "w") empty
  rw [← hsame]
  cases hsaved : ((save true admin (.ofText "w") (server "secret").toInput).run env empty).1 with
  | error e =>
    rw [hsaved] at hmade
    cases hmade
  | ok v => exact ⟨v, rfl, rfl⟩

/-- **The reason why a document cannot be read is told as it is.**  Neither of two configurations
can be read, and they are the same otherwise; but saving the one fails with another failure than
saving the other one. -/
theorem save_tells_faults :
    let env := Environment.undisturbed "key" (fun _ => "1") fun _ => List.replicate 12 0
    let admin : Actor := ⟨.ofText "u", .admin⟩
    let keyed := "[a]\ntype=s3\n'null'=x"
    let listed := "[a]\ntype=s3\nx[]=1\r[x]\rlength=abc"
    let cloud (content : String) : Submission :=
      ⟨none, "w", "cloud", false, ⟨.rclone, ⟨content, ""⟩⟩⟩
    let saved (content : String) :=
      (save false admin (.ofText "w") (cloud content).toInput).run env (.start ⟨[], [], [], []⟩)
    (cloud keyed).variant.hide = (cloud listed).variant.hide ∧
      (keyed = "" ↔ listed = "") ∧ Field.isMarked keyed = Field.isMarked listed ∧
      (Remotes.list keyed).toOption = none ∧ (Remotes.list listed).toOption = none ∧
      (saved keyed).1 ≠ (saved listed).1 := by
  intro env admin keyed listed cloud saved
  have hkeyed : (saved keyed).1.map (fun _ => ()) = .error (.malformed (.document .nullKey)) := by
    decide +kernel
  have hlisted : (saved listed).1.map (fun _ => ()) =
      .error (.malformed (.document .badLength)) := by
    decide +kernel
  refine ⟨rfl, by decide, by decide, by decide +kernel, by decide +kernel, fun hsame => ?_⟩
  rw [hsame, hlisted] at hkeyed
  cases hkeyed

end Service

end Depository
