import Depository.Proofs.Service.Guards

/-!
# Two operations on one storage at the same time

An update, a deletion and a transfer look a storage up, check what they found, and later write a
whole row or delete it.  Nothing is locked in between, so of two such operations on one storage each
may write in the middle of the other one, and the last write wins.  What the checks are for holds as
long as no write undoes one that its operation has not seen: a system storage stays one, and a
storage that is gone stays gone.

* `Duo` — two operations under way, whose instructions are carried out in any order
  (`Duo.after`, `Duo.turns`);
* `Tables.Upholds` — system storages stay system storages, and what is gone stays gone;
* `Turn.Overrides` — a write undoes what the other operation wrote since the look-up;
* `Duo.Tracks` — what either side writes goes with the row that it found;
* `Duo.upholds_or_overrides` — **in every order, what is not upheld was overridden**, and
  `Duo.overrides_deletion`, which says that this happens.
-/

namespace Depository

/-! ### Turns -/

/-- One of two operations. -/
inductive Side where
  | left
  | right
  deriving DecidableEq

/-- An instruction that was carried out for one of two operations. -/
structure Turn where
  side : Side
  instruction : Instruction

/-- The instruction takes back what another one did: it puts back a row that was deleted, or it
makes a storage private that was saved as a system storage. -/
def Instruction.Undoes : Instruction → Instruction → Prop
  | saveStorage _, deleteStorage _ => True
  | saveStorage row, saveStorage other => row.isSystem = false ∧ other.isSystem = true
  | _, _ => False

/-- After these turns, this one undoes what the other operation has written since the operation of
this turn looked the storage up. -/
def Turn.Overrides (id : String) (past : List Turn) (turn : Turn) : Prop :=
  ∃ before since, past = before ++ ⟨turn.side, .findStorage (.ofText id)⟩ :: since ∧
    ∃ other ∈ since, other.side ≠ turn.side ∧ turn.instruction.Undoes other.instruction

namespace Tables

/-- If there is a storage of this id, there was one before, and if that one was a system storage,
it still is. -/
def Upholds (id : String) (t u : Tables) : Prop :=
  ∀ row, u.find? (.ofText id) = some row →
    ∃ old, t.find? (.ofText id) = some old ∧ (old.isSystem = true → row.isSystem = true)

variable {id : String} {t u v : Tables}

theorem upholds_delete (h : u.storages = (t.delete (.ofText id)).storages) : t.Upholds id u := by
  intro row hrow
  rw [find?_of_storages h, find?_delete, if_pos (Cell.same_ofText.2 rfl)] at hrow
  cases hrow

theorem upholds_of_find? (h : u.find? (.ofText id) = t.find? (.ofText id)) : t.Upholds id u :=
  fun row hrow => ⟨row, h.symm.trans hrow, fun hsystem => hsystem⟩

theorem Upholds.trans (h : t.Upholds id u) (h' : u.Upholds id v) : t.Upholds id v := by
  intro row hrow
  obtain ⟨middle, hmiddle, hlast⟩ := h' row hrow
  obtain ⟨old, hold, hfirst⟩ := h middle hmiddle
  exact ⟨old, hold, fun hsystem => hlast (hfirst hsystem)⟩

end Tables

/-! ### Two operations -/

/-- Two operations that are under way in one world. -/
structure Duo where
  world : World
  rest : Side → Operation Unit

namespace Duo

/-- Two requests that have just come in. -/
def start (cloudMode : Bool) (left right : Request) (w : World) : Duo :=
  ⟨w, fun
    | .left => left.program cloudMode
    | .right => right.program cloudMode⟩

/-- The instruction that is carried out when one side goes on; there is none if the operation is
over, and none if the tables fail. -/
def turn? (d : Duo) (env : Environment) (side : Side) : Option Turn :=
  match d.rest side with
  | .done _ => none
  | .ask i _ => if (env.faultOf d.world i).isSome then none else some ⟨side, i⟩

/-- One side goes on by one instruction. -/
def step (d : Duo) (env : Environment) (side : Side) : Duo :=
  match d.rest side with
  | .done _ => d
  | .ask i next =>
    let (r, w) := env.perform d.world i
    ⟨w, Function.update d.rest side (next r)⟩

/-- Who goes on, and in which environment, one instruction after another. -/
abbrev Schedule := List (Side × Environment)

/-- What is left after the instructions of a schedule. -/
def after (d : Duo) : Schedule → Duo
  | [] => d
  | (side, env) :: rest => (d.step env side).after rest

/-- The instructions that are carried out in the order of a schedule. -/
def turns (d : Duo) : Schedule → List Turn
  | [] => []
  | (side, env) :: rest => (d.turn? env side).toList ++ (d.step env side).turns rest

theorem after_append (d : Duo) (first later : Schedule) :
    d.after (first ++ later) = (d.after first).after later := by
  induction first generalizing d with
  | nil => rfl
  | cons s rest ih => exact ih _

end Duo

/-! ### What is done to the storage -/

/-- What a permitted instruction does that the tables do not refuse: what is known afterwards, and
the table of storages. -/
inductive Instruction.Acts (id : String) (known : Option Row) (t : Tables) :
    Instruction → Option Row → Tables → Prop where
  | finds {after : Tables} (h : after.storages = t.storages) :
    Acts id known t (.findStorage (.ofText id)) (t.find? (.ofText id)) after
  | saves {old row : Row} {s : Storage} {after : Tables} (hknown : known = some old)
    (hrow : s.toRow = .ok row) (hid : s.id = .ofText id)
    (stays : old.isSystem = true → s.isShared = true)
    (h : after.storages = (t.save row).storages) : Acts id known t (.saveStorage row) none after
  | deletes {after : Tables} (h : after.storages = (t.delete (.ofText id)).storages) :
    Acts id known t (.deleteStorage (.ofText id)) none after
  | passes {i : Instruction} {after : Tables} (hi : i.IsAside) (h : after.storages = t.storages) :
    Acts id known t i known after

/-- An instruction that has nothing to do with single storages leaves their table as it is. -/
theorem Instruction.IsAside.storages {i : Instruction} (h : i.IsAside) (env : Environment)
    (w : World) : (env.perform w i).2.tables.storages = w.tables.storages := by
  -- it is no connection test, so nobody has the time to change anything
  have hquiet : env.perform w i = { env with meanwhile := fun _ t => t }.perform w i := by
    cases i <;> first | exact h.elim | rfl
  rw [hquiet]
  exact Service.storages_perform (fun _ _ => rfl) w (fun row hi => (hi ▸ h).elim)
    fun id hi => (hi ▸ h).elim

theorem Instruction.Permitted.acts {env : Environment} {w : World} {i : Instruction} {id : String}
    {known : Option Row} (h : i.Permitted id known)
    (hknown : ∀ old, known = some old → old.get? "id" = .ofText id)
    (hanswered : env.faultOf w i = none) :
    i.Acts id known w.tables (i.learn known (env.perform w i).1) (env.perform w i).2.tables := by
  have hperform : env.perform w i =
      env.answer { w with instructions := w.instructions + 1 } i := by
    rw [Environment.perform, hanswered]
  cases i with
  | findStorage other =>
    obtain rfl : other = .ofText id := h
    rw [hperform]
    exact .finds rfl
  | saveStorage row =>
    obtain ⟨old, s, rfl, hrow, hid, stays⟩ := h
    have hown : s.id = .ofText id := hid.trans (hknown old rfl)
    have hidentified : row.isIdentified = true := by
      rw [Row.isIdentified, Storage.get?_id_of_toRow hrow, hown]
      rfl
    rw [hperform, Environment.answer, Environment.identify, if_pos hidentified]
    exact .saves rfl hrow hown stays rfl
  | deleteStorage other =>
    obtain rfl : other = .ofText id := h
    rw [hperform]
    exact .deletes rfl
  | probe owner v => exact h.elim
  | _ => exact .passes (by trivial) (Instruction.IsAside.storages (by trivial) env w)

theorem Storage.isSystem_of_toRow {s : Storage} {row : Row} (h : s.toRow = .ok row) :
    row.isSystem = s.isShared := by
  obtain ⟨v, -, rfl⟩ := exists_variant_of_toRow h
  rfl

namespace Tables

/-- A row that one side found when it looked a storage up, and what the other side has done since:
if the storage is gone, that side has deleted it, and if it is a system storage now, it was one or
that side has saved it as one. -/
structure Recalls (t : Tables) (id : String) (side : Side) (old : Row) (since : List Turn) :
    Prop where
  found : old.get? "id" = .ofText id
  gone : t.find? (.ofText id) = none →
    ∃ other ∈ since, other.side ≠ side ∧ ∃ c, other.instruction = .deleteStorage c
  shared : ∀ row, t.find? (.ofText id) = some row → row.isSystem = true →
    old.isSystem = true ∨ ∃ other ∈ since, other.side ≠ side ∧
      ∃ r, other.instruction = .saveStorage r ∧ r.isSystem = true

variable {id : String} {t u : Tables} {side other : Side} {old row : Row} {since : List Turn}
  {s : Storage}

theorem recalls_of_find? (h : t.find? (.ofText id) = some old) : t.Recalls id side old [] where
  found := get?_id_of_find? h
  gone hgone := by
    rw [h] at hgone
    cases hgone
  shared row hrow hsystem := by
    obtain rfl := Option.some.inj (h.symm.trans hrow)
    exact .inl hsystem

theorem Recalls.later (h : t.Recalls id side old since) (hu : u.storages = t.storages)
    (more : List Turn) : u.Recalls id side old (since ++ more) where
  found := h.found
  gone hgone := by
    obtain ⟨turn, hturn, hdeleted⟩ := h.gone ((find?_of_storages hu _).symm.trans hgone)
    exact ⟨turn, List.mem_append_left more hturn, hdeleted⟩
  shared row hrow hsystem := by
    refine (h.shared row ((find?_of_storages hu _).symm.trans hrow) hsystem).imp_right ?_
    rintro ⟨turn, hturn, hsaved⟩
    exact ⟨turn, List.mem_append_left more hturn, hsaved⟩

theorem Recalls.save (h : t.Recalls id side old since) (hside : other ≠ side)
    (hrow : s.toRow = .ok row) (hid : s.id = .ofText id)
    (hu : u.storages = (t.save row).storages) :
    u.Recalls id side old (since ++ [⟨other, .saveStorage row⟩]) := by
  obtain ⟨-, saved, hsaved, -, hshared⟩ | ⟨hne, -⟩ := find?_save_toRow (t := t) hrow hid id
  · rw [← find?_of_storages hu] at hsaved
    refine ⟨h.found, fun hgone => ?_, fun row' hrow' hsystem => .inr ?_⟩
    · rw [hsaved] at hgone
      cases hgone
    · obtain rfl := Option.some.inj (hsaved.symm.trans hrow')
      refine ⟨_, List.mem_append_right since (List.mem_singleton_self _), hside, row, rfl, ?_⟩
      rw [Storage.isSystem_of_toRow hrow, ← hshared, hsystem]
  · exact absurd rfl hne

theorem Recalls.delete (h : t.Recalls id side old since) (hside : other ≠ side)
    (hu : u.storages = (t.delete (.ofText id)).storages) :
    u.Recalls id side old (since ++ [⟨other, .deleteStorage (.ofText id)⟩]) := by
  refine ⟨h.found, fun _ => ?_, fun row hrow => ?_⟩
  · exact ⟨_, List.mem_append_right since (List.mem_singleton_self _), hside, _, rfl⟩
  · rw [find?_of_storages hu, find?_delete, if_pos (Cell.same_ofText.2 rfl)] at hrow
    cases hrow

/-- **A row that is saved upholds the storage, or it undoes a write that was not seen.** -/
theorem Recalls.upholds_or_undoes (h : t.Recalls id side old since) (hrow : s.toRow = .ok row)
    (hid : s.id = .ofText id) (stays : old.isSystem = true → s.isShared = true)
    (hu : u.storages = (t.save row).storages) :
    t.Upholds id u ∨ ∃ turn ∈ since, turn.side ≠ side ∧
      (Instruction.saveStorage row).Undoes turn.instruction := by
  cases hfound : t.find? (.ofText id) with
  | none =>
    obtain ⟨turn, hturn, hside, c, hdeleted⟩ := h.gone hfound
    refine .inr ⟨turn, hturn, hside, ?_⟩
    rw [hdeleted]
    trivial
  | some current =>
    by_cases hkept : current.isSystem = true → s.isShared = true
    · refine .inl fun row' hrow' => ⟨current, hfound, fun hsystem => ?_⟩
      obtain ⟨-, saved, hsaved, -, hshared⟩ | ⟨hne, -⟩ := find?_save_toRow (t := t) hrow hid id
      · rw [find?_of_storages hu] at hrow'
        obtain rfl := Option.some.inj (hsaved.symm.trans hrow')
        exact hshared.trans (hkept hsystem)
      · exact absurd rfl hne
    · obtain ⟨hsystem, hprivate⟩ := Classical.not_imp.1 hkept
      obtain hold | ⟨turn, hturn, hside, r, hsaved, hr⟩ := h.shared current hfound hsystem
      · exact absurd (stays hold) hprivate
      · refine .inr ⟨turn, hturn, hside, ?_⟩
        rw [hsaved]
        refine ⟨?_, hr⟩
        rw [Storage.isSystem_of_toRow hrow]
        exact Bool.eq_false_iff.2 hprivate

end Tables

/-! ### Runs -/

namespace Duo

variable {id : String} {d : Duo} {past : List Turn} {env : Environment} {side : Side}

/-- What either side writes goes with the row that it found, which is recalled since the turn in
which it was found. -/
def Tracks (id : String) (d : Duo) (past : List Turn) : Prop :=
  ∀ side, ∃ known, (d.rest side).Guards id (fun _ _ => True) known ∧
    ∀ old, known = some old → ∃ before since,
      past = before ++ ⟨side, .findStorage (.ofText id)⟩ :: since ∧
      d.world.tables.Recalls id side old since

/-- One side has gone on, and what was found before is still recalled. -/
theorem Tracks.goes (h : d.Tracks id past) {w : World} {o : Operation Unit} {learnt : Option Row}
    (more : List Turn) (ho : o.Guards id (fun _ _ => True) learnt)
    (hlearnt : ∀ old, learnt = some old → ∃ before since,
      past ++ more = before ++ ⟨side, .findStorage (.ofText id)⟩ :: since ∧
      w.tables.Recalls id side old since)
    (hother : ∀ other, side ≠ other → ∀ old since, d.world.tables.Recalls id other old since →
      w.tables.Recalls id other old (since ++ more)) :
    (⟨w, Function.update d.rest side o⟩ : Duo).Tracks id (past ++ more) := by
  intro other
  by_cases hside : other = side
  · obtain rfl := hside
    exact ⟨learnt, by simpa using ho, hlearnt⟩
  · obtain ⟨known, hguards, hknown⟩ := h other
    refine ⟨known, by simpa [hside] using hguards, fun old hold => ?_⟩
    obtain ⟨before, since, rfl, hrecalls⟩ := hknown old hold
    exact ⟨before, since ++ more, by simp, hother other (Ne.symm hside) old since hrecalls⟩

/-- **One turn** goes with what was found, and what it does not uphold it overrides. -/
theorem Tracks.step (h : d.Tracks id past) (env : Environment) (side : Side) :
    (d.step env side).Tracks id (past ++ (d.turn? env side).toList) ∧
      (d.world.tables.Upholds id (d.step env side).world.tables ∨
        ∃ turn, d.turn? env side = some turn ∧ turn.Overrides id past) := by
  obtain ⟨known, hguards, hknown⟩ := h side
  cases hrest : d.rest side with
  | done outcome =>
    have hstep : d.step env side = d := by rw [Duo.step, hrest]
    have hturn : d.turn? env side = none := by rw [turn?, hrest]
    rw [hstep, hturn]
    exact ⟨by simpa using h, .inl (Tables.upholds_of_find? rfl)⟩
  | ask i next =>
    rw [hrest] at hguards
    obtain ⟨hpermitted, hnext⟩ := hguards
    have hstep : d.step env side = ⟨(env.perform d.world i).2,
        Function.update d.rest side (next (env.perform d.world i).1)⟩ := by
      rw [Duo.step, hrest]
    have hgoes := hnext (env.perform d.world i).1
    cases hfault : env.faultOf d.world i with
    | some message =>
      have hturn : d.turn? env side = none := by simp [turn?, hrest, hfault]
      have hperform : env.perform d.world i =
          (.error (.fault message), { d.world with instructions := d.world.instructions + 1 }) := by
        rw [Environment.perform, hfault]
      rw [hperform, Instruction.learn_error] at hgoes
      rw [hstep, hturn, hperform]
      refine ⟨h.goes [] hgoes (fun old hold => ?_) fun other _ old since hrecalls =>
        hrecalls.later rfl [], .inl (Tables.upholds_of_find? rfl)⟩
      simpa using hknown old hold
    | none =>
      have hturn : d.turn? env side = some ⟨side, i⟩ := by simp [turn?, hrest, hfault]
      have hacts := hpermitted.acts (fun old hold => by
        obtain ⟨_, _, -, hrecalls⟩ := hknown old hold
        exact hrecalls.found) hfault
      rw [hstep, hturn]
      generalize i.learn known (env.perform d.world i).1 = learnt at hacts hgoes
      generalize (env.perform d.world i).2 = w at hacts ⊢
      refine ⟨h.goes [⟨side, i⟩] hgoes ?own ?other, ?upholds⟩
      case own =>
        intro old hold
        cases hacts with
        | finds hs =>
          have hfound : w.tables.find? (.ofText id) = some old :=
            (Tables.find?_of_storages hs _).trans hold
          exact ⟨past, [], rfl, Tables.recalls_of_find? hfound⟩
        | saves | deletes => cases hold
        | passes _ hs =>
          obtain ⟨before, since, rfl, hrecalls⟩ := hknown old hold
          exact ⟨before, since ++ [⟨side, i⟩], by simp, hrecalls.later hs _⟩
      case other =>
        intro other hside old since hrecalls
        cases hacts with
        | finds hs | passes _ hs => exact hrecalls.later hs _
        | saves _ hrow hid _ hs => exact hrecalls.save hside hrow hid hs
        | deletes hs => exact hrecalls.delete hside hs
      case upholds =>
        cases hacts with
        | finds hs | passes _ hs =>
          exact .inl (Tables.upholds_of_find? (Tables.find?_of_storages hs _))
        | deletes hs => exact .inl (Tables.upholds_delete hs)
        | saves hold hrow hid stays hs =>
          obtain ⟨before, since, rfl, hrecalls⟩ := hknown _ hold
          refine (hrecalls.upholds_or_undoes hrow hid stays hs).imp_right ?_
          exact fun hundoes => ⟨_, rfl, before, since, rfl, hundoes⟩

/-- **In a whole run** what is written goes with what was found, and what is not upheld was
overridden in some turn. -/
theorem Tracks.run (h : d.Tracks id past) (schedule : Schedule) :
    (d.after schedule).Tracks id (past ++ d.turns schedule) ∧
      (d.world.tables.Upholds id (d.after schedule).world.tables ∨
        ∃ before turn rest, d.turns schedule = before ++ turn :: rest ∧
          turn.Overrides id (past ++ before)) := by
  induction schedule generalizing d past with
  | nil => exact ⟨by simpa [turns, Duo.after] using h, .inl (Tables.upholds_of_find? rfl)⟩
  | cons next rest ih =>
    obtain ⟨side, env⟩ := next
    obtain ⟨hstep, hfirst⟩ := h.step env side
    obtain ⟨hrun, hlater⟩ := ih hstep
    refine ⟨by simpa [turns, Duo.after] using hrun, ?_⟩
    obtain hfirst | ⟨turn, hturn, hoverrides⟩ := hfirst
    · refine hlater.imp hfirst.trans ?_
      rintro ⟨before, turn, rest', hturns, hoverrides⟩
      refine ⟨(d.turn? env side).toList ++ before, turn, rest', by simp [turns, hturns], ?_⟩
      simpa using hoverrides
    · refine .inr ⟨[], turn, (d.step env side).turns rest, by simp [turns, hturn], ?_⟩
      simpa using hoverrides

theorem tracks_start {cloudMode : Bool} {left right : Request} (hleft : left.IsOn id)
    (hright : right.IsOn id) (w : World) : (start cloudMode left right w).Tracks id [] := by
  rintro (_ | _)
  · exact ⟨none, left.program_guards cloudMode hleft, fun _ h => nomatch h⟩
  · exact ⟨none, right.program_guards cloudMode hright, fun _ h => nomatch h⟩

/-! ### A transfer, and what comes in the middle of it -/

/-- A global administrator transfers a private storage on local disk, and something else is asked
for at the same time. -/
def besideTransfer (other : Request) : Duo :=
  let disk : Record := ⟨"a", "w", "disk", false, none, ⟨.localDisk, {}⟩⟩
  start false (.transfer ⟨.ofText "u", .admin⟩ "a" "v" none) other
    (.start ⟨[disk.toRow], [], [], []⟩)

/-- The deletion of that storage. -/
def deletion : Request := .delete ⟨.ofText "u", .admin⟩ "a"

/-- The update that makes it a system storage. -/
def sharing : Request :=
  .save ⟨.ofText "u", .admin⟩ "w" ⟨some "a", "w", "disk", true, ⟨.localDisk, {}⟩⟩

/-- So many instructions of one side, none of which fails. -/
def turnsOf (side : Side) (count : Nat) : Schedule :=
  List.replicate count (side, .undisturbed "key" (fun _ => "b") fun _ => [])

/-- The transfer looks the storage up, and then the other request is carried out. -/
def interrupted : Schedule := turnsOf .left 1 ++ turnsOf .right 6

/-- **What is not upheld was overridden.**  Two requests on one storage, whoever asks for them, are
carried out in any order of their instructions, in any world and whatever fails.  From any moment
to any later one, a storage that is gone stays gone and a system storage stays one or goes; unless
in a turn in between an operation undoes what the other one wrote after it had looked the storage
up itself. -/
theorem upholds_or_overrides {left right : Request} (hleft : left.IsOn id)
    (hright : right.IsOn id) (cloudMode : Bool) (w : World) (first later : Schedule) :
    let d := start cloudMode left right w
    (d.after first).world.tables.Upholds id (d.after (first ++ later)).world.tables ∨
      ∃ before turn rest, (d.after first).turns later = before ++ turn :: rest ∧
        turn.Overrides id (d.turns first ++ before) := by
  intro d
  rw [after_append]
  have hstart : d.Tracks id [] := tracks_start hleft hright w
  exact ((hstart.run first).1.run later).2

/-- The transfer that brings a deleted storage back overrides the deletion. -/
theorem upholds_or_overrides_deletion :
    let d := besideTransfer deletion
    ∃ before turn rest, (d.after interrupted).turns (turnsOf .left 6) = before ++ turn :: rest ∧
      turn.Overrides "a" (d.turns interrupted ++ before) := by
  have hleft : (Request.transfer ⟨.ofText "u", .admin⟩ "a" "v" none).IsOn "a" := rfl
  have hright : deletion.IsOn "a" := rfl
  refine (upholds_or_overrides hleft hright false _ interrupted (turnsOf .left 6)).resolve_left
    fun hupholds => ?_
  have hgone : ((besideTransfer deletion).after interrupted).world.tables.find? (.ofText "a") =
      none := by
    rw [← Option.isNone_iff_eq_none]
    decide +kernel
  have hback : (((besideTransfer deletion).after
      (interrupted ++ turnsOf .left 6)).world.tables.find? (.ofText "a")).isSome = true := by
    decide +kernel
  obtain ⟨row, hrow⟩ := Option.isSome_iff_exists.1 hback
  obtain ⟨old, hold, -⟩ := hupholds row hrow
  exact absurd (hgone.symm.trans hold) nofun

/-- **Operations on one storage override each other.**  The storage is deleted, or made a system
storage, after the transfer has looked it up; and what the transfer writes then brings it back, or
makes it private again. -/
theorem overrides_deletion :
    deletion.IsOn "a" ∧ sharing.IsOn "a" ∧
      (let d := besideTransfer deletion
       (d.after interrupted).world.tables.find? (.ofText "a") = none ∧
        ((d.after (interrupted ++ turnsOf .left 6)).world.tables.find? (.ofText "a")).isSome) ∧
      (let d := besideTransfer sharing
       ((d.after interrupted).world.tables.find? (.ofText "a")).map Row.isSystem = some true ∧
        ((d.after (interrupted ++ turnsOf .left 6)).world.tables.find? (.ofText "a")).map
          Row.isSystem = some false) := by
  refine ⟨rfl, ⟨rfl, by decide⟩, ⟨?_, ?_⟩, ?_, ?_⟩
  · rw [← Option.isNone_iff_eq_none]
    decide +kernel
  · decide +kernel
  · decide +kernel
  · decide +kernel

end Duo

end Depository
