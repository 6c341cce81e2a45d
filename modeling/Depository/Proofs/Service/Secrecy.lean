import Depository.Proofs.Database.Listing
import Depository.Proofs.Service.Loading
import Depository.Proofs.Service.Tells

/-!
# What reading tells

What an actor reads depends only on what he is shown, and on what rows are refused for when they are
read from the table.  Take two tables of storages whose rows correspond to each other, of the same
ids, workspaces and system flags, and differ in nothing but secrets, the configurations of system
storages, and whatever else is told only to members of a workspace that the actor is no member of
(`Alike`); for a global administrator they may differ in secrets only.  Where corresponding rows are
read alike, an actor who reads the one table and reads the other gets the same, with the same
failures.  Without this it fails: a row is read before anybody's rights are looked at, so that what
is wrong with a configuration is told to those, too, who are not shown it (`read_invalid_iff`).

* `Sees`, `SeesConfig` — the actor is shown a row, and its configuration;
* `Alike` — two rows differ in nothing that the actor is shown;
* `View.IsDiscreet` — a view that shows no secret, and nothing of the configuration of a system
  storage but to a global administrator;
* `Service.read_agrees`, `Service.readAll_agrees` — what is alike and read alike is shown alike;
* `Service.read_noninterference` — **reading does not tell apart what is alike**, just where the
  rows are read alike, and every view is discreet;
* `Service.read_tells_malformed` — what it does tell.
-/

namespace Depository

/-! ### What is seen -/

/-- The actor is shown the storages of this workspace and of this system flag. -/
def Sees (t : Tables) (actor : Actor) (workspaceId isSystem : Cell) : Prop :=
  actor.isGlobalAdmin = true ∨ isSystem.isTruthy = true ∨
    (t.role workspaceId actor.id).isSome = true

/-- The actor is shown their configurations, without the secrets. -/
def SeesConfig (t : Tables) (actor : Actor) (workspaceId isSystem : Cell) : Prop :=
  actor.isGlobalAdmin = true ∨
    isSystem.isTruthy = false ∧ (t.role workspaceId actor.id).isSome = true

/-- The rows differ in nothing that the actor is shown. -/
structure Alike (t : Tables) (actor : Actor) (row other : Row) : Prop where
  id : row.get? "id" = other.get? "id"
  workspaceId : row.get? "workspaceId" = other.get? "workspaceId"
  isSystem : row.get? "isSystem" = other.get? "isSystem"
  seen : Sees t actor (row.get? "workspaceId") (row.get? "isSystem") →
    ∀ column ∈ ["name", "type", "lastSaveError"], row.get? column = other.get? column
  config : SeesConfig t actor (row.get? "workspaceId") (row.get? "isSystem") →
    ∀ b, Backend.ofName? ((row.text? "type").getD "") = some b → ∀ key ∉ b.secretKeys,
      (row.get? "config").bind (Json.get? key) = (other.get? "config").bind (Json.get? key)

/-- The view shows no secret, and nothing of a system storage's configuration but to a global
administrator. -/
structure View.IsDiscreet (actor : Actor) (v : View) : Prop where
  system : v.isSystem.isTruthy = true → actor.isGlobalAdmin = false → v.payload = .hidden
  secrets : ∀ b config, v.payload = .shown b config → ∀ key ∈ b.secretKeys,
    config.bind (Json.get? key) = some (.string "")

/-! ### Views of rows that are alike -/

section Views

variable {t : Tables} {actor : Actor} {row other : Row}

/-- The storages are the same for the actor: what he is shown of them is. -/
structure SameFor (t : Tables) (actor : Actor) (s s' : Storage) : Prop where
  workspaceId : s.workspaceId = s'.workspaceId
  isSystem : s.isSystem = s'.isSystem
  view : Sees t actor s.workspaceId s.isSystem →
    Service.viewOf actor s = Service.viewOf actor s'

/-- The view of a storage of a known backend. -/
def viewWith (actor : Actor) (s : Storage) (v : Variant) : View where
  id := s.id
  workspaceId := s.workspaceId
  name := s.name
  type := .ofText v.typeName
  isSystem := s.isSystem
  lastSaveError := s.lastSaveError
  payload := .of (.ofText v.typeName) (some v.hide.payload) (s.isShared && !actor.isGlobalAdmin)

theorem viewOf_eq {s : Storage} {v : Variant} (h : s.variant = some v) :
    Service.viewOf actor s = .ok (viewWith actor s v) := by
  rw [Service.viewOf, View.ofStorage, Storage.knownVariant, h]
  rfl

/-- **What is read of rows that are alike is the same for the actor.** -/
theorem Alike.sameFor (h : Alike t actor row other) {s s' : Storage}
    (hs : Storage.ofRow row = .ok s) (hs' : Storage.ofRow other = .ok s') :
    SameFor t actor s s' := by
  obtain ⟨x, hx, rfl⟩ := Storage.exists_parse_of_ofRow hs
  obtain ⟨y, hy, rfl⟩ := Storage.exists_parse_of_ofRow hs'
  refine ⟨h.workspaceId, h.isSystem, fun hsees => ?_⟩
  have hname := h.seen hsees "name" (by simp)
  have htype := h.seen hsees "type" (by simp)
  have herror := h.seen hsees "lastSaveError" (by simp)
  have htext : row.text? "type" = other.text? "type" := congrArg Cell.text? htype
  rw [← htext] at hy
  rcases Variant.parseNamed_eq_ok hx with ⟨hb, rfl⟩ | ⟨b, c, hb, hc, rfl⟩ <;>
    rcases Variant.parseNamed_eq_ok hy with ⟨hb', rfl⟩ | ⟨b', d, hb', hd, rfl⟩
  · -- of a backend that is not known, neither storage has a view
    rfl
  · cases hb.symm.trans hb'
  · cases hb.symm.trans hb'
  · obtain rfl : b = b' := Option.some.inj (hb.symm.trans hb')
    rw [viewOf_eq rfl, viewOf_eq rfl]
    simp only [viewWith, Variant.typeName, Storage.isShared, ← h.id, ← h.workspaceId, ← h.isSystem,
      ← hname, ← herror]
    by_cases hhidden : ((row.get? "isSystem").isTruthy && !actor.isGlobalAdmin) = true
    · rw [hhidden]
      rfl
    · -- he is shown the configuration, so it is the same but for secrets
      have hshown : SeesConfig t actor (row.get? "workspaceId") (row.get? "isSystem") := by
        rcases hsees with hadmin | hsystem | hrole
        · exact .inl hadmin
        · exact .inl (by simpa [hsystem] using hhidden)
        · by_cases hadmin : actor.isGlobalAdmin = true
          · exact .inl hadmin
          · exact .inr ⟨by simpa [hadmin] using hhidden, hrole⟩
      have hide : b.hide c = b.hide d := Variant.hide_of_parse (h.config hshown b hb) hc hd
      have hsame : Variant.hide ⟨b, c⟩ = Variant.hide ⟨b, d⟩ := congrArg (Variant.mk b) hide
      rw [hsame]

end Views

/-! ### Reading operations -/

namespace Service

open Operation

variable {env : Environment} {t u : Tables} {actor : Actor}

/-- What is found under an id is alike. -/
theorem find?_alike (hs : List.Forall₂ (Alike t actor) t.storages u.storages) (id : Cell) :
    Option.Rel (Alike t actor) (t.find? id) (u.find? id) := by
  rw [Tables.find?, Tables.find?]
  generalize t.storages = rows, u.storages = others at hs
  induction hs with
  | nil => exact .none
  | @cons row other _ _ hr _ ih =>
    have hid : row.hasId id = other.hasId id := by rw [Row.hasId, Row.has, hr.id]; rfl
    -- the search stops at the same place, since the ids are the same
    simp only [Row.find?, List.find?_cons, ← hid] at ih ⊢
    cases row.hasId id with
    | true => exact .some hr
    | false => exact ih

/-- A role is found alike where the memberships are the same. -/
theorem role_agrees (hm : u.memberships = t.memberships) (workspaceId userId : Cell) :
    (role workspaceId userId).Agrees env t u (role workspaceId userId)
      fun r r' => r = r' ∧ r = t.role workspaceId userId := by
  have hrole : u.role workspaceId userId = t.role workspaceId userId := by
    rw [Tables.role, Tables.role, hm]
  refine agrees_request fun w hw => ⟨_, _, rfl, rfl, ?_⟩
  rw [hw]
  exact ⟨hrole.symm, rfl⟩

/-- The right to view is found alike, and whoever gets past this has it. -/
theorem requireView_agrees (hm : u.memberships = t.memberships) (workspaceId : Cell)
    (reason : PermissionReason) :
    (requireView workspaceId actor reason).Agrees env t u (requireView workspaceId actor reason)
      fun _ _ => mayView actor (t.role workspaceId actor.id) = true := by
  refine Agrees.bind (R := fun a b => a = b ∧ a.allowed =
    mayView actor (t.role workspaceId actor.id)) ?_ ?_
  · refine Agrees.bind (role_agrees hm workspaceId actor.id) ?_
    rintro r _ ⟨rfl, rfl⟩
    exact agrees_pure ⟨rfl, rfl⟩
  · rintro access _ ⟨rfl, hallowed⟩
    rw [← hallowed]
    exact agrees_require _ _

theorem sees_of_mayView {workspaceId isSystem : Cell}
    (h : mayView actor (t.role workspaceId actor.id) = true) :
    Sees t actor workspaceId isSystem := by
  rcases (Bool.or_eq_true _ _).mp h with hrole | hadmin
  · exact .inr (.inr hrole)
  · exact .inl hadmin

/-- **A storage is read alike** if its rows are alike and are read alike. -/
theorem read_agrees (hm : u.memberships = t.memberships)
    (hs : List.Forall₂ (Alike t actor) t.storages u.storages) {id : Cell}
    (hload : Option.Rel Row.LoadsAlike (t.find? id) (u.find? id)) :
    (read actor id).Agrees env t u (read actor id) Eq := by
  refine Agrees.bind (get_agrees hload) ?_
  rintro s s' ⟨row, other, hf, hf', hrow, hother⟩
  have halike := find?_alike hs id
  rw [hf, hf'] at halike
  obtain ⟨halike⟩ := halike
  have hss : SameFor t actor s s' := halike.sameFor hrow hother
  have hview : Sees t actor s.workspaceId s.isSystem →
      (view actor s).Agrees env t u (view actor s') Eq := by
    intro hsees
    rw [view, view, ← hss.view hsees]
    exact agrees_lift (.refl (fun _ => rfl) _)
  have hshared : s'.isShared = s.isShared := congrArg Cell.isTruthy hss.isSystem.symm
  rw [hshared, ← hss.workspaceId]
  -- a shared storage is shown to everybody, any other one to those who may view its workspace
  by_cases hsystem : s.isShared = true
  · simpa only [hsystem, if_true] using hview (.inr (.inl hsystem))
  · dsimp only
    rw [if_neg hsystem, if_neg hsystem]
    exact Agrees.bind (requireView_agrees hm _ _) fun _ _ hmay => hview (sees_of_mayView hmay)

/-- **Who names a row is told that it is not read**, and of a row that is read he is told no such
thing. -/
theorem read_invalid_iff (ha : env.Answers) {id : Cell} {row : Row} (hf : t.find? id = some row)
    (cause : Invalid) :
    ((read actor id).run env (.start t)).1 = .error (.invalid cause) ↔
      Storage.ofRow row = .error (.invalid cause) := by
  cases hrow : Storage.ofRow row with
  | error e =>
    have hread : (read actor id).Ends env t 0 (fun e' _ => e' = e) fun _ _ => False :=
      Ends.bind (get_unread ha hf hrow) fun _ _ hfalse => hfalse.elim
    rcases hread.run (World.start t).at_self with ⟨_, -, hfalse⟩ | ⟨_, he, rfl⟩
    · exact hfalse.elim
    · rw [he]
      simp
  | ok s =>
    -- what comes after the row is read fails for the right to view it, or for its backend
    have hview : (view actor s).Tells env t 0 (· ≠ .invalid cause) fun _ => True := by
      refine tells_lift fun e he => ?_
      cases hv : s.variant with
      | none =>
        rw [viewOf, View.ofStorage, Storage.knownVariant, hv] at he
        cases he
        simp
      | some v =>
        rw [viewOf_eq hv] at he
        cases he
    have hread : (read actor id).Tells env t 0 (· ≠ .invalid cause) fun _ => True := by
      refine Gives.bind (get_finds ha hf hrow) ?_
      by_cases hshared : s.isShared = true
      · rw [if_pos hshared]
        exact hview
      · rw [if_neg hshared]
        exact Tells.bind (requireView_tells ha _ actor fun _ => by simp) fun _ _ => hview
    refine iff_of_false (fun he => ?_) (by simp)
    exact hread.of_error (World.start t).at_self he rfl

/-- Rows that are alike are read alike if reading them comes to the same. -/
theorem loadsAlike_of_read (ha : env.Answers)
    (hs : List.Forall₂ (Alike t actor) t.storages u.storages) {id : Cell}
    (h : ((read actor id).run env (.start t)).1 = ((read actor id).run env (.start u)).1) :
    Option.Rel Row.LoadsAlike (t.find? id) (u.find? id) := by
  match hf : t.find? id, hf' : u.find? id, find?_alike hs id with
  | none, none, _ => exact .none
  | some row, some other, _ =>
    refine .some fun e => ⟨fun he => ?_, fun he => ?_⟩
    · obtain ⟨cause, rfl⟩ := Storage.invalid_of_ofRow he
      exact (read_invalid_iff ha hf' cause).1 (h.symm.trans ((read_invalid_iff ha hf cause).2 he))
    · obtain ⟨cause, rfl⟩ := Storage.invalid_of_ofRow he
      exact (read_invalid_iff ha hf cause).1 (h.trans ((read_invalid_iff ha hf' cause).2 he))

/-! ### Lists -/

/-- The rows are alike, and the actor is shown them. -/
def ShownAlike (t : Tables) (actor : Actor) (row other : Row) : Prop :=
  Alike t actor row other ∧ Sees t actor (row.get? "workspaceId") (row.get? "isSystem")

theorem ShownAlike.name {row other : Row} (h : ShownAlike t actor row other) :
    row.get? "name" = other.get? "name" := h.1.seen h.2 "name" (by simp)

theorem forall₂_filter {α : Type} {R S : α → α → Prop} {p : α → Bool} {xs ys : List α}
    (h : List.Forall₂ R xs ys) (hp : ∀ x y, R x y → p x = p y)
    (hS : ∀ x y, R x y → p x = true → S x y) : List.Forall₂ S (xs.filter p) (ys.filter p) := by
  induction h with
  | nil => exact .nil
  | @cons x y _ _ hx _ ih =>
    rw [List.filter_cons, List.filter_cons, ← hp x y hx]
    cases hpx : p x with
    | true => exact .cons (hS x y hx hpx) ih
    | false => exact ih

/-- Of a workspace that the actor may view, corresponding rows are listed in the same places. -/
theorem visibleIn_alike {workspaceId : Cell}
    (hmay : mayView actor (t.role workspaceId actor.id) = true)
    (hs : List.Forall₂ (Alike t actor) t.storages u.storages) :
    List.Forall₂ (ShownAlike t actor) (t.visibleIn workspaceId) (u.visibleIn workspaceId) := by
  refine Listing.forall₂_sort ?_ (forall₂_filter hs ?_ ?_)
  · intro a a' b b' ha hb
    rw [Tables.isBefore, Tables.isBefore, ha.name, hb.name]
  · intro row other h
    rw [Tables.isVisibleIn, Tables.isVisibleIn, Row.has, Row.has, h.workspaceId, h.isSystem]
  · intro row other h hvisible
    refine ⟨h, ?_⟩
    -- what is listed is of the workspace or of a system storage, and both are shown
    rcases (Bool.or_eq_true _ _).mp hvisible with howned | hsystem
    · rw [(Cell.same_iff.1 howned).1]
      exact sees_of_mayView hmay
    · refine .inr (.inl ?_)
      cases hc : row.get? "isSystem" with
      | none => simp [hc, Cell.isTrue] at hsystem
      | some v =>
        rw [hc] at hsystem
        cases v <;> simp_all [Cell.isTrue, Cell.isTruthy, Json.isTruthy]

theorem canList_eq {rows others : List Row} (h : List.Forall₂ (ShownAlike t actor) rows others) :
    Tables.canList rows = Tables.canList others := by
  have hall : (rows.all fun r => (r.get? "name").plainText?.isSome) =
      others.all fun r => (r.get? "name").plainText?.isSome := by
    induction h with
    | nil => rfl
    | cons hr _ ih => rw [List.all_cons, List.all_cons, hr.name, ih]
  rw [Tables.canList, Tables.canList, h.length_eq, hall]

theorem loadAll_alike {rows others : List Row}
    (h : List.Forall₂ (ShownAlike t actor) rows others)
    (hload : List.Forall₂ Row.LoadsAlike rows others) :
    Outcomes (List.Forall₂ fun s s' => viewOf actor s = viewOf actor s') (loadAll rows)
      (loadAll others) := by
  induction h with
  | nil => exact .nil
  | cons hr _ ih =>
    obtain ⟨hfirst, hrest⟩ := List.forall₂_cons.1 hload
    refine Outcomes.bind (R := fun s s' => viewOf actor s = viewOf actor s') ?_ ?_
    · refine hfirst.outcomes.mono ?_
      rintro s s' ⟨hs, hs'⟩
      obtain ⟨-, hworkspace, hsystem⟩ := Storage.columns_of_ofRow hs
      refine (hr.1.sameFor hs hs').view ?_
      rw [hworkspace, hsystem]
      exact hr.2
    · intro s s' hss
      exact Outcomes.bind (ih hrest) fun more more' hmore => List.Forall₂.cons hss hmore

theorem viewAll_alike {storages others : List Storage}
    (h : List.Forall₂ (fun s s' => viewOf actor s = viewOf actor s') storages others) :
    viewAll actor storages = viewAll actor others := by
  induction h with
  | nil => rfl
  | cons hs _ ih => rw [viewAll, viewAll, hs, ih]

/-- **A list is read alike** if the rows in it are alike and are read alike.  An actor who may not
view the workspace is not told so much. -/
theorem readAll_agrees (hm : u.memberships = t.memberships)
    (hs : List.Forall₂ (Alike t actor) t.storages u.storages) {workspaceId : Cell}
    (hload : mayView actor (t.role workspaceId actor.id) = true →
      List.Forall₂ Row.LoadsAlike (t.visibleIn workspaceId) (u.visibleIn workspaceId)) :
    (readAll actor workspaceId).Agrees env t u (readAll actor workspaceId) Eq := by
  refine Agrees.bind (requireView_agrees hm workspaceId _) fun _ _ hmay => ?_
  refine Agrees.bind (R := List.Forall₂ fun s s' => viewOf actor s = viewOf actor s') ?_ ?_
  · refine Agrees.bind (R := fun rows others => List.Forall₂ (ShownAlike t actor) rows others ∧
      List.Forall₂ Row.LoadsAlike rows others) ?_ ?_
    · refine agrees_request fun w hw => ⟨_, _, rfl, rfl, ?_⟩
      -- corresponding rows have the same names, so they can be listed or not alike
      have hrows := visibleIn_alike hmay hs
      rw [hw, Environment.listing, Environment.listing, canList_eq hrows]
      dsimp only
      split
      · exact ⟨hrows, hload hmay⟩
      · exact Eq.refl _
    · rintro rows others ⟨hrows, hloads⟩
      exact agrees_lift (loadAll_alike hrows hloads)
  · intro storages others hviews
    rw [viewAll_alike hviews]
    exact agrees_lift (.refl (fun _ => rfl) _)

/-! ### What views show -/

/-- Every view that is made of a storage is discreet. -/
theorem isDiscreet_of_viewOf {s : Storage} {v : View} (h : viewOf actor s = .ok v) :
    v.IsDiscreet actor := by
  cases hv : s.variant with
  | none =>
    rw [viewOf, View.ofStorage, Storage.knownVariant, hv] at h
    cases h
  | some x =>
    rw [viewOf_eq hv] at h
    obtain rfl := Except.ok.inj h
    refine ⟨fun hsystem hadmin => ?_, fun b config hshown key hkey => ?_⟩
    · have hhidden : (s.isShared && !actor.isGlobalAdmin) = true := by
        rw [hadmin]
        simpa [Storage.isShared, viewWith] using hsystem
      rw [viewWith, hhidden]
      rfl
    · obtain ⟨b', c⟩ := x
      rw [viewWith, Payload.of] at hshown
      split at hshown
      · cases hshown
      · have htext : (Cell.ofText (Variant.typeName ⟨b', c⟩)).text?.bind Backend.ofName? =
            some b' := Backend.ofName?_name b'
        simp only [htext, Payload.shown.injEq] at hshown
        obtain ⟨rfl, rfl⟩ := hshown
        rw [← Backend.map_key_secrets] at hkey
        obtain ⟨f, hf, rfl⟩ := List.mem_map.1 hkey
        have hget := Backend.get?_secret hf (b'.hide c)
        rw [Backend.get_hide hf] at hget
        exact hget

theorem isDiscreet_of_viewAll {storages : List Storage} {views : List View}
    (h : viewAll actor storages = .ok views) : ∀ v ∈ views, v.IsDiscreet actor := by
  induction storages generalizing views with
  | nil =>
    obtain rfl := Except.ok.inj h
    simp
  | cons s rest ih =>
    rw [viewAll] at h
    cases hv : viewOf actor s with
    | error e => simp [hv, Bind.bind, Except.bind] at h
    | ok v =>
      cases hmore : viewAll actor rest with
      | error e => simp [hv, hmore, Bind.bind, Except.bind] at h
      | ok more =>
        simp only [hv, hmore, Bind.bind, Except.bind, Pure.pure, Except.pure,
          Except.ok.injEq] at h
        subst h
        exact List.forall_mem_cons.2 ⟨isDiscreet_of_viewOf hv, ih hmore⟩

theorem isDiscreet_of_read {id : Cell} {v : View} {w : World}
    (h : ((read actor id).run env w).1 = .ok v) : v.IsDiscreet actor := by
  refine Ends.of_ok (F := fun _ _ => True) (S := fun v _ => v.IsDiscreet actor) ?_ w.at_self h
  refine Ends.bind ends_true fun s w' _ => ?_
  have hview : (view actor s).Ends env w'.tables w'.ids (fun _ _ => True)
      fun v _ => v.IsDiscreet actor := ends_lift fun _ => isDiscreet_of_viewOf
  by_cases hshared : s.isShared = true
  · simpa only [hshared, if_true] using hview
  · rw [if_neg hshared]
    exact Ends.bind ends_true fun _ w'' _ => ends_lift fun _ => isDiscreet_of_viewOf

theorem isDiscreet_of_readAll {workspaceId : Cell} {views : List View} {w : World}
    (h : ((readAll actor workspaceId).run env w).1 = .ok views) :
    ∀ v ∈ views, v.IsDiscreet actor := by
  refine Ends.of_ok (F := fun _ _ => True) (S := fun views _ => ∀ v ∈ views, v.IsDiscreet actor)
    ?_ w.at_self h
  refine Ends.bind ends_true fun _ _ _ => Ends.bind ends_true fun storages _ _ => ?_
  exact ends_lift fun _ => isDiscreet_of_viewAll

/-! ### Noninterference -/

/-- **Reading does not tell apart what is alike**, but for rows that are not read alike.  Take two
tables of storages whose rows are alike for an actor, and of the same memberships.  He reads the
same under an id, or is told the same failure, if the rows of the id are read alike, and where the
tables answer only then.  He reads the same storages of a workspace, or is told the same failure,
if the rows that are listed to him are read alike.  Rows that differ in the texts of secrets at most
always are.  And no view that he gets carries a secret or anything of the configuration of a system
storage that is not for him. -/
theorem read_noninterference (hm : u.memberships = t.memberships)
    (hs : List.Forall₂ (Alike t actor) t.storages u.storages) :
    (∀ id, Option.Rel Row.LoadsAlike (t.find? id) (u.find? id) →
        ((read actor id).run env (.start t)).1 = ((read actor id).run env (.start u)).1) ∧
      (env.Answers → ∀ id,
        ((read actor id).run env (.start t)).1 = ((read actor id).run env (.start u)).1 →
          Option.Rel Row.LoadsAlike (t.find? id) (u.find? id)) ∧
      (∀ workspaceId,
        (mayView actor (t.role workspaceId actor.id) = true →
          List.Forall₂ Row.LoadsAlike (t.visibleIn workspaceId) (u.visibleIn workspaceId)) →
        ((readAll actor workspaceId).run env (.start t)).1 =
          ((readAll actor workspaceId).run env (.start u)).1) ∧
      (∀ row other : Row, row.SameButSecrets other → row.LoadsAlike other) ∧
      (∀ id v, ((read actor id).run env (.start t)).1 = .ok v → v.IsDiscreet actor) ∧
      (∀ workspaceId views, ((readAll actor workspaceId).run env (.start t)).1 = .ok views →
        ∀ v ∈ views, v.IsDiscreet actor) :=
  ⟨fun _ hload => (read_agrees hm hs hload).run_start,
    fun ha _ h => loadsAlike_of_read ha hs h,
    fun _ hload => (readAll_agrees hm hs hload).run_start,
    fun _ _ h => h.loadsAlike,
    fun _ _ => isDiscreet_of_read, fun _ _ => isDiscreet_of_readAll⟩

/-- A viewer of one workspace, where a secret differs; in another workspace nearly all does. -/
theorem read_noninterference_viewer :
    let viewer : Actor := ⟨.ofText "u", .member⟩
    let rclone (content : String) : Variant := ⟨.rclone, ⟨content, ""⟩⟩
    let tables (password name : String) (v : Variant) : Tables :=
      { storages := [Record.toRow ⟨"1", "w", "shown", false, none, rclone password⟩,
          Record.toRow ⟨"2", "x", name, false, some name, v⟩]
        memberships := [⟨[("userId", .ofText "u"), ("workspaceId", .ofText "w"),
          ("role", .ofText "VIEWER")]⟩]
        attachments := [], audit := [] }
    let t := tables "enc:1" "one" (rclone "enc:3")
    let u := tables "enc:2" "other" ⟨.localDisk, {}⟩
    ∀ env : Environment,
      ((readAll viewer (.ofText "w")).run env (.start t)).1 =
          ((readAll viewer (.ofText "w")).run env (.start u)).1 ∧
        ((read viewer (.ofText "2")).run env (.start t)).1 =
          ((read viewer (.ofText "2")).run env (.start u)).1 := by
  intro viewer rclone tables t u env
  have hshown : Alike t viewer
      (Record.toRow ⟨"1", "w", "shown", false, none, rclone "enc:1"⟩)
      (Record.toRow ⟨"1", "w", "shown", false, none, rclone "enc:2"⟩) := by
    refine ⟨rfl, rfl, rfl, fun _ column hcolumn => ?_, fun _ b hb key hkey => ?_⟩
    · simp only [List.mem_cons, List.not_mem_nil, or_false] at hcolumn
      rcases hcolumn with rfl | rfl | rfl <;> rfl
    · obtain rfl : Backend.rclone = b := Option.some.inj hb
      have hget := Backend.get?_hide hkey (rclone "enc:1").config
      exact hget.symm.trans (Backend.get?_hide hkey (rclone "enc:2").config)
  have hunseen : ¬Sees t viewer (.ofText "x") (some (.bool false)) := by
    rintro (hadmin | hsystem | hrole)
    · cases hadmin
    · cases hsystem
    · cases hrole
  have hhidden : Alike t viewer
      (Record.toRow ⟨"2", "x", "one", false, some "one", rclone "enc:3"⟩)
      (Record.toRow ⟨"2", "x", "other", false, some "other", ⟨.localDisk, {}⟩⟩) := by
    refine ⟨rfl, rfl, rfl, fun hs => absurd hs hunseen, fun hs => absurd ?_ hunseen⟩
    rcases hs with hadmin | ⟨-, hrole⟩
    · exact .inl hadmin
    · exact .inr (.inr hrole)
  have hs : List.Forall₂ (Alike t viewer) t.storages u.storages :=
    .cons hshown (.cons hhidden .nil)
  have hm : u.memberships = t.memberships := rfl
  have hload : ∀ r r' : Record, r.toRow.LoadsAlike r'.toRow := fun r r' =>
    Row.loadsAlike_of_ok r.ofRow_toRow r'.ofRow_toRow
  obtain ⟨hread, -, hlist, -⟩ := @read_noninterference env t u viewer hm hs
  exact ⟨hlist _ fun _ => .cons (hload _ _) .nil, hread _ (.some (hload _ _))⟩

/-- What reading does tell: somebody without any rights names a system storage, of which he is shown
the name only, and is told that its configuration has a number for its host. -/
theorem read_tells_malformed :
    let stranger : Actor := ⟨.ofText "u", .member⟩
    let tables (config : Json) : Tables :=
      { storages := [⟨[("id", .ofText "s"), ("workspaceId", .ofText "w"),
          ("name", .ofText "shared"), ("type", .ofText "FTP"), ("isSystem", some (.bool true)),
          ("lastSaveError", some .null), ("config", some config)]⟩]
        memberships := [], attachments := [], audit := [] }
    let t := tables (.object [])
    let u := tables (.object [("host", .number (.integer 1))])
    let env := Environment.undisturbed "key" (fun _ => "a") fun _ => []
    List.Forall₂ (Alike t stranger) t.storages u.storages ∧
      (∃ v, ((read stranger (.ofText "s")).run env (.start t)).1 = .ok v ∧ v.payload = .hidden) ∧
      ((read stranger (.ofText "s")).run env (.start u)).1 = .error
        (.ofIssues [⟨["ftpStorage", "host"], .wrongKind .string .number⟩]) := by
  intro stranger tables t u env
  refine ⟨.cons ⟨rfl, rfl, rfl, fun _ column hcolumn => ?_, fun hshown => ?_⟩ .nil, ⟨_, rfl, rfl⟩,
    rfl⟩
  · simp only [List.mem_cons, List.not_mem_nil, or_false] at hcolumn
    rcases hcolumn with rfl | rfl | rfl <;> rfl
  · rcases hshown with hadmin | ⟨hsystem, -⟩
    · cases hadmin
    · cases hsystem

end Service

end Depository
