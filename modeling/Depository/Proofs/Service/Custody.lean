import Depository.Proofs.Service.Secrecy
import Depository.Proofs.Service.Trial

/-!
# Who may use stored secrets

A submitted storage that names a stored one is tested with the secrets of that one, on a backend
that the caller chooses.  So an actor who may not manage the stored one is refused, and nothing is
called, whatever its configuration is.  The row is read before his rights are looked at, though: of
a configuration that has not the form of its backend he is told what is wrong with it, and only of
rows that are read alike he is told the same (`Row.LoadsAlike`).  Of a submitted storage that names
none, the test has nothing to do with the table of storages.

* `Tables.withPayload` — the tables with another configuration in a row;
* `Service.trial_refused` — that the actor is refused;
* `Service.trial_agrees`, `Service.trial_agreesOr` — that he is told the same of rows that are read
  alike, and of any rows nothing but that they are not read;
* `Service.testSubmitted_custody` — **stored secrets are used for those only who may manage them**;
* `Service.testSubmitted_tells_malformed` — what the refusal does tell.
-/

namespace Depository

/-! ### Another configuration -/

/-- The row with another backend and another configuration. -/
def Row.withPayload (type : String) (config : Json) (row : Row) : Row :=
  row.update ⟨[("type", .ofText type), ("config", some config)]⟩

theorem Row.get?_withPayload {column : String} (htype : column ≠ "type")
    (hconfig : column ≠ "config") (type : String) (config : Json) (row : Row) :
    (row.withPayload type config).get? column = row.get? column := by
  rw [withPayload, get?_update]
  simp [Members.get?, htype.symm, hconfig.symm]

namespace Tables

/-- The tables with another backend and another configuration in the row of an id. -/
def withPayload (id : Cell) (type : String) (config : Json) (t : Tables) : Tables :=
  { t with storages := Row.changeFirst id (Row.withPayload type config) t.storages }

theorem find?_withPayload (id : Cell) (type : String) (config : Json) (t : Tables) :
    (t.withPayload id type config).find? id = (t.find? id).map (Row.withPayload type config) :=
  Row.find?_changeFirst (Row.get?_withPayload (by simp) (by simp) type config) id t.storages

end Tables

namespace Service

open Operation

variable {env : Environment} {t u : Tables} {cloudMode : Bool} {actor : Actor} {input : Input}
  {w : World} {row other : Row}

/-- Whether the row may be used does not depend on its configuration. -/
theorem mayUse_withPayload (actor : Actor) (t : Tables) (workspaceId id : Cell) (type : String)
    (config : Json) (row : Row) :
    MayUse actor (t.withPayload id type config) workspaceId (row.withPayload type config) ↔
      MayUse actor t workspaceId row := by
  have hworkspace : (row.withPayload type config).get? "workspaceId" = row.get? "workspaceId" :=
    Row.get?_withPayload (by simp) (by simp) type config row
  have hsystem : (row.withPayload type config).get? "isSystem" = row.get? "isSystem" :=
    Row.get?_withPayload (by simp) (by simp) type config row
  constructor
  · rintro ⟨howned, hmanage, hadmin⟩
    rw [Row.has, hworkspace] at howned
    rw [hworkspace] at hmanage
    rw [hsystem] at hadmin
    exact ⟨howned, hmanage, hadmin⟩
  · rintro ⟨howned, hmanage, hadmin⟩
    refine ⟨?_, ?_, ?_⟩
    · rwa [Row.has, hworkspace]
    · rwa [hworkspace]
    · rwa [hsystem]

/-! ### Refusals -/

/-- **Whoever may not use what is stored is refused**, and nothing has been done. -/
theorem trial_refused (hid : input.id.isTruthy = true) (hf : w.tables.find? input.id = some row)
    (hno : ¬MayUse actor w.tables input.workspaceId row) :
    ∃ e k, (trial cloudMode actor input).run env w = (.error e, { w with instructions := k }) := by
  have hlooks : ∃ k, ((trial cloudMode actor input).run env w).2 = { w with instructions := k } :=
    (trial_asks cloudMode actor input).run_lookups w
  obtain ⟨k, hafter⟩ := hlooks
  have huses : (trial cloudMode actor input).Reads env w.tables w.ids _ :=
    trial_uses hid cloudMode
  rcases Ends.run huses w.at_self with ⟨_, -, -, -, huse⟩ | ⟨e, he, -⟩
  · obtain ⟨row', _, _, _, hf', hmay, -⟩ := huse
    obtain rfl := Option.some.inj (hf.symm.trans hf')
    exact absurd hmay hno
  · exact ⟨e, k, Prod.ext he hafter⟩

/-- The right to manage is found alike, and whoever gets past this has it. -/
theorem requireManage_agrees (hm : u.memberships = t.memberships) (workspaceId : Cell)
    (reason : PermissionReason) :
    (requireManage workspaceId actor reason).Agrees env t u (requireManage workspaceId actor reason)
      fun _ _ => mayManage actor (t.role workspaceId actor.id) = .ok true := by
  refine Agrees.bind (R := fun a b => a = b ∧
    mayManage actor (t.role workspaceId actor.id) = .ok a) ?_ ?_
  · rw [canManage]
    by_cases hadmin : actor.isGlobalAdmin = true
    · rw [if_pos hadmin]
      exact agrees_pure ⟨rfl, by rw [mayManage, if_pos hadmin]⟩
    · rw [if_neg hadmin]
      refine Agrees.bind (role_agrees hm workspaceId actor.id) ?_
      rintro r _ ⟨rfl, rfl⟩
      refine agrees_lift ?_
      cases mayManage actor (t.role workspaceId actor.id) with
      | ok allowed => exact ⟨rfl, rfl⟩
      | error e => exact Eq.refl e
  · rintro allowed _ ⟨rfl, hmay⟩
    refine (agrees_require allowed _).mono ?_
    rintro _ _ rfl
    exact hmay

/-- **Whoever may not use what is stored is told the same of rows that are read alike.** -/
theorem trial_agrees (hm : u.memberships = t.memberships) (hid : input.id.isTruthy = true)
    (hf : t.find? input.id = some row) (hf' : u.find? input.id = some other)
    (hsame : ∀ column ∈ ["workspaceId", "isSystem"], row.get? column = other.get? column)
    (hno : ¬MayUse actor t input.workspaceId row) (hload : row.LoadsAlike other) :
    (trial cloudMode actor input).Agrees env t u (trial cloudMode actor input)
      fun _ _ => False := by
  refine Agrees.bind (requireView_agrees hm _ _) fun _ _ _ => ?_
  refine Agrees.bind (agrees_require _ _) fun _ _ _ => ?_
  rw [if_pos hid]
  have hfound : Option.Rel Row.LoadsAlike (t.find? input.id) (u.find? input.id) := by
    rw [hf, hf']
    exact .some hload
  refine Agrees.bind (get_agrees hfound) ?_
  rintro s s' ⟨row', other', hrow, hother, hs, hs'⟩
  obtain rfl := Option.some.inj (hf.symm.trans hrow)
  obtain rfl := Option.some.inj (hf'.symm.trans hother)
  obtain ⟨-, hworkspace, hsystem⟩ := Storage.columns_of_ofRow hs
  obtain ⟨-, hworkspace', hsystem'⟩ := Storage.columns_of_ofRow hs'
  -- what is checked of the row is the same in both
  rw [hworkspace', hsystem', ← hsame _ (by simp), ← hsame _ (by simp), ← hworkspace, ← hsystem]
  refine Agrees.bind (agrees_require _ _) fun _ _ howned => ?_
  refine Agrees.bind (requireManage_agrees hm _ _) fun _ _ hmanage => ?_
  refine Agrees.bind (agrees_require _ _) fun _ _ hadmin => ?_
  rw [hworkspace] at howned hmanage
  rw [hsystem] at hadmin
  refine absurd ⟨howned, hmanage, fun hshared => ?_⟩ hno
  simpa [hshared] using hadmin

/-- The refusals of rows that are read alike are the same, after as many questions. -/
theorem same_of_trial (hm : u.memberships = w.tables.memberships)
    (hid : input.id.isTruthy = true) (hf : w.tables.find? input.id = some row)
    (hf' : u.find? input.id = some other)
    (hsame : ∀ column ∈ ["workspaceId", "isSystem"], row.get? column = other.get? column)
    (hno : ¬MayUse actor w.tables input.workspaceId row) (hload : row.LoadsAlike other)
    {e e' : Failure} {k k' : Nat}
    (hrun : (trial cloudMode actor input).run env w = (.error e, { w with instructions := k }))
    (hrun' : (trial cloudMode actor input).run env { w with tables := u } =
      (.error e', { w with tables := u, instructions := k' })) : e' = e ∧ k' = k := by
  have hagrees : (trial cloudMode actor input).Agrees env w.tables u
    (trial cloudMode actor input) fun _ _ => False := trial_agrees hm hid hf hf' hsame hno hload
  obtain ⟨x, y, v, hx, hy, -, hxy⟩ := hagrees w rfl
  obtain ⟨rfl, rfl⟩ := Prod.mk.inj (hrun.symm.trans hx)
  obtain ⟨rfl, hafter⟩ := Prod.mk.inj (hrun'.symm.trans hy)
  exact ⟨hxy.symm, congrArg World.instructions hafter⟩

/-- Of any two rows an actor is told the same, unless he is told of a row that it is not read. -/
theorem trial_agreesOr (hm : u.memberships = t.memberships) (hid : input.id.isTruthy = true)
    (hf : t.find? input.id = some row) (hf' : u.find? input.id = some other) :
    (trial cloudMode actor input).AgreesOr env t u (trial cloudMode actor input)
      fun ended ended' => (∀ e, Storage.ofRow row = .error e → ended = .error e) ∧
        ∀ e, Storage.ofRow other = .error e → ended' = .error e := by
  refine Agrees.bind_or (requireView_agrees hm _ _) fun _ _ _ => ?_
  refine Agrees.bind_or (agrees_require _ _) fun _ _ _ => ?_
  rw [if_pos hid]
  -- the row is read as soon as it is found
  simp only [mergedTrial, get, find?, bind_assoc]
  refine Agrees.bind_or (findStorage_agrees _) ?_
  rintro _ _ ⟨rfl, rfl⟩ v -
  rw [hf, hf']
  refine .inr ⟨fun e he => ?_, fun e he => ?_⟩
  · rw [loadOption_of_error he]
    rfl
  · rw [loadOption_of_error he]
    rfl

/-- What is told of a difference between rows is only ever that one of them is not read. -/
theorem unread_of_trial (hm : u.memberships = w.tables.memberships)
    (hid : input.id.isTruthy = true) (hf : w.tables.find? input.id = some row)
    (hf' : u.find? input.id = some other) (hload : ¬row.LoadsAlike other) {e e' : Failure}
    (he : ((trial cloudMode actor input).run env w).1 = .error e)
    (he' : ((trial cloudMode actor input).run env { w with tables := u }).1 = .error e') :
    e' = e ∨ Storage.ofRow row = .error e ∨ Storage.ofRow other = .error e' := by
  have htold : (trial cloudMode actor input).AgreesOr env w.tables u
    (trial cloudMode actor input) _ := trial_agreesOr hm hid hf hf'
  rcases htold w rfl with hsame | ⟨hrow, hother⟩
  · rw [he, he'] at hsame
    exact .inl (Except.error.inj hsame)
  cases hs : Storage.ofRow row with
  | error e₀ =>
    obtain rfl := Except.error.inj ((hrow e₀ hs).symm.trans he)
    exact .inr (.inl rfl)
  | ok s =>
    cases hs' : Storage.ofRow other with
    | error e₀ =>
      obtain rfl := Except.error.inj ((hother e₀ hs').symm.trans he')
      exact .inr (.inr rfl)
    | ok s' => exact absurd (Row.loadsAlike_of_ok hs hs') hload

/-- What there is to test without a stored storage does not depend on the table of storages. -/
theorem trial_agrees_of_new (hid : input.id.isTruthy = false) (storages : List Row) :
    (trial cloudMode actor input).Agrees env t { t with storages } (trial cloudMode actor input)
      Eq := by
  have hm : ({ t with storages } : Tables).memberships = t.memberships := rfl
  refine Agrees.bind (requireView_agrees hm _ _) fun _ _ _ => ?_
  refine Agrees.bind (agrees_require _ _) fun _ _ _ => ?_
  rw [hid, if_neg (by simp)]
  refine Agrees.bind (agrees_lift (.refl (fun _ => rfl) _)) ?_
  rintro v _ rfl
  refine Agrees.bind (agrees_lift (.refl (fun _ => rfl) _)) fun _ _ _ => ?_
  exact agrees_pure rfl

/-! ### The test of a submitted storage -/

/-- **Stored secrets are used for those only who may manage them.**  Where a submitted storage names
a stored one that the actor may not use, its test is refused with nothing done, and with another
configuration in the row it is refused too, with nothing done.  It is refused with the same failure
and after as many questions if the two rows are read alike, and with another failure only where it
is told of one of them that it is not read.  Where a submitted storage names none, the table of
storages may be any other one, and the outcome, the calls and the log are the same. -/
theorem testSubmitted_custody (env : Environment) (cloudMode : Bool) (actor : Actor)
    (input : Input) (w : World) :
    (∀ row, input.id.isTruthy = true → w.tables.find? input.id = some row →
      ¬MayUse actor w.tables input.workspaceId row →
      ∃ e k, (testSubmitted cloudMode actor input).run env w =
          (.error e, { w with instructions := k }) ∧
        ∀ type config,
          let replaced := row.withPayload type config
          let other : World := { w with tables := w.tables.withPayload input.id type config }
          ∃ e' k', (testSubmitted cloudMode actor input).run env other =
              (.error e', { other with instructions := k' }) ∧
            (row.LoadsAlike replaced → e' = e ∧ k' = k) ∧
            (e' = e ∨ Storage.ofRow row = .error e ∨ Storage.ofRow replaced = .error e')) ∧
    (input.id.isTruthy = false → ∀ storages,
      let ended := (testSubmitted cloudMode actor input).run env w
      let other := (testSubmitted cloudMode actor input).run env
        { w with tables := { w.tables with storages } }
      other.1 = ended.1 ∧ other.2.calls = ended.2.calls ∧ other.2.log = ended.2.log) := by
  refine ⟨fun row hid hf hno => ?_, fun hid storages => ?_⟩
  · obtain ⟨e, k, hrun⟩ := trial_refused hid hf hno
    refine ⟨e, k, run_testSubmitted_of_error hrun, fun type config => ?_⟩
    intro replaced other
    have hf' : other.tables.find? input.id = some replaced := by
      rw [Tables.find?_withPayload, hf]
      rfl
    have hno' :=
      (mayUse_withPayload actor w.tables input.workspaceId input.id type config row).not.2 hno
    obtain ⟨e', k', hrun'⟩ := trial_refused (w := other) hid hf' hno'
    have hm : other.tables.memberships = w.tables.memberships := rfl
    have hchecked : ∀ column ∈ ["workspaceId", "isSystem"],
        row.get? column = replaced.get? column := by
      simp [replaced, Row.get?_withPayload]
    have hsame : row.LoadsAlike replaced → e' = e ∧ k' = k := fun hload =>
      same_of_trial hm hid hf hf' hchecked hno hload hrun hrun'
    refine ⟨e', k', run_testSubmitted_of_error hrun', hsame, ?_⟩
    by_cases hload : row.LoadsAlike replaced
    · exact .inl (hsame hload).1
    · exact unread_of_trial hm hid hf hf' hload (congrArg Prod.fst hrun) (congrArg Prod.fst hrun')
  · have hagrees : (trial cloudMode actor input).Agrees env w.tables { w.tables with storages }
        (trial cloudMode actor input) Eq := trial_agrees_of_new hid storages
    obtain ⟨x, y, v, hx, hy, -, hxy⟩ := hagrees w rfl
    obtain rfl := hxy.eq
    intro ended other
    cases x with
    | error e =>
      simp only [ended, other, run_testSubmitted_of_error hx, run_testSubmitted_of_error hy,
        and_self]
    | ok p =>
      simp only [ended, other, run_testSubmitted_of_ok hx, run_testSubmitted_of_ok hy]
      exact ⟨rfl, rfl, rfl⟩

/-- A viewer of a workspace who names a storage of it in order to have its password sent to his own
host is refused, whatever the password is. -/
theorem testSubmitted_custody_viewer :
    let viewer : Actor := ⟨.ofText "u", .member⟩
    let ftp (host password : String) : Variant :=
      ⟨.ftp, ⟨host, 21, "backup", password, false, false, ""⟩⟩
    let input : Input :=
      ⟨.ofText "s", .ofText "w", .ofText "mine", some (.bool false), some (ftp "evil.example" "")⟩
    let w (password : String) : World := .start
      { storages := [Record.toRow ⟨"s", "w", "nightly", false, none, ftp "ftp.example" password⟩]
        memberships := [⟨[("userId", .ofText "u"), ("workspaceId", .ofText "w"),
          ("role", .ofText "VIEWER")]⟩]
        attachments := [], audit := [] }
    let env := Environment.undisturbed "key" (fun _ => "a") fun _ => []
    ∃ k k', (testSubmitted false viewer input).run env (w "enc:1") =
        (.error (.permission .manage), { w "enc:1" with instructions := k }) ∧
      (testSubmitted false viewer input).run env (w "enc:2") =
        (.error (.permission .manage), { w "enc:2" with instructions := k' }) := by
  intro viewer ftp input w env
  let r (password : String) : Record :=
    ⟨"s", "w", "nightly", false, none, ftp "ftp.example" password⟩
  have hno : ¬MayUse viewer (w "enc:1").tables input.workspaceId (r "enc:1").toRow :=
    fun h => absurd h.manage (by decide)
  obtain ⟨hrefused, -⟩ := testSubmitted_custody env false viewer input (w "enc:1")
  obtain ⟨e, k, hrun, hother⟩ := hrefused (r "enc:1").toRow rfl rfl hno
  obtain ⟨e', k', hrun', hsame, -⟩ := hother "FTP" (ftp "ftp.example" "enc:2").payload
  obtain ⟨rfl, -⟩ := hsame (Row.loadsAlike_of_ok (r "enc:1").ofRow_toRow (r "enc:2").ofRow_toRow)
  have hmanage : ((testSubmitted false viewer input).run env (w "enc:1")).1 =
      .error (.permission .manage) := rfl
  obtain rfl := Except.error.inj ((congrArg Prod.fst hrun).symm.trans hmanage)
  exact ⟨k, k', hrun, hrun'⟩

/-- What the refusal does tell: he is told that he may not manage the storage, but with a number for
the host in its configuration he is told of this number instead. -/
theorem testSubmitted_tells_malformed :
    let viewer : Actor := ⟨.ofText "u", .member⟩
    let input : Input := ⟨.ofText "s", .ofText "w", .ofText "nightly", some (.bool false),
      some ⟨.ftp, ⟨"evil.example", 21, "u", "", false, false, ""⟩⟩⟩
    let row : Row := ⟨[("id", .ofText "s"), ("workspaceId", .ofText "w"),
      ("name", .ofText "nightly"), ("type", .ofText "FTP"), ("isSystem", some (.bool false)),
      ("lastSaveError", some .null), ("config", some (.object []))]⟩
    let t : Tables :=
      { storages := [row]
        memberships := [⟨[("userId", .ofText "u"), ("workspaceId", .ofText "w"),
          ("role", .ofText "VIEWER")]⟩]
        attachments := [], audit := [] }
    let env := Environment.undisturbed "key" (fun _ => "a") fun _ => []
    t.find? input.id = some row ∧ ¬MayUse viewer t input.workspaceId row ∧
      ((testSubmitted false viewer input).run env (.start t)).1 = .error (.permission .manage) ∧
      ((testSubmitted false viewer input).run env (.start
          (t.withPayload input.id "FTP" (.object [("host", .number (.integer 1))])))).1 =
        .error (.ofIssues [⟨["ftpStorage", "host"], .wrongKind .string .number⟩]) := by
  intro viewer input row t env
  exact ⟨rfl, fun h => absurd h.manage (by decide), rfl, rfl⟩

end Service

end Depository
