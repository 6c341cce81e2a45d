import Depository.Proofs.Backend.NormalForm
import Depository.Settings.Basic
import Mathlib.Data.List.Nodup
import Mathlib.Tactic.Choose

/-!
# Settings are read variable by variable

An environment is checked as a whole, and all that is wrong with it is told at once.  Still each of
its variables has a reader of its own, which sees nothing but that variable, and the settings are
put together from what these readers give.

* `Schema.Reader.Explains` — whatever a reader refuses, it says why, of the value itself;
* `Settings.Variable` — the variables, each with its name, its reader and its setting;
* `Settings.read_eq_valid`, `Settings.issues_read` — an environment is read by reading its
  variables, and what is told of it is what is told of each, in order;
* `Settings.load_environment` — an environment of texts fails in its check or not at all;
* `Settings.accepts_iff` — **it is accepted just if nothing is told of any variable**.
-/

namespace Depository

open Schema

/-- The variables of a process as they are read. -/
def environment (vars : Members String) : Json := .object (vars.map fun v => (v.1, .string v.2))

theorem get?_environment (vars : Members String) (name : String) :
    (environment vars).get? name = (Members.get? name vars).map Json.string := by
  show Members.get? name (vars.map fun v => (v.1, Json.string v.2)) = _
  induction vars with
  | nil => rfl
  | cons v rest ih =>
    by_cases h : v.1 = name
    · simp [Members.get?, h]
    · simpa [Members.get?, h] using ih

/-! ### Refusals are explained -/

namespace Schema

variable {α : Type}

namespace Checked

/-- What is refused is refused for at least one reason, and every reason is told of the value itself
and not of a part of it. -/
def IsExplained (x : Checked α) : Prop :=
  ∀ issues, x = .invalid issues → issues ≠ [] ∧ ∀ i ∈ issues, i.path = []

theorem isExplained_valid (a : α) : (valid a).IsExplained := nofun

theorem isExplained_invalid {problems : List Problem} (h : problems ≠ []) :
    (invalid (problems.map (Issue.mk [])) : Checked α).IsExplained := by
  intro issues hissues
  obtain rfl := Checked.invalid.inj hissues
  exact ⟨by simpa using h, by simp⟩

theorem isExplained_problem (p : Problem) : (problem p : Checked α).IsExplained :=
  isExplained_invalid (List.cons_ne_nil p [])

theorem issues_under (key : String) (x : Checked α) :
    (x.under key).issues = x.issues.map (Issue.under key) := by
  cases x <;> rfl

/-- Nothing is told just of what is valid. -/
theorem IsExplained.issues_eq_nil {x : Checked α} (h : x.IsExplained) :
    x.issues = [] ↔ ∃ a, x = valid a := by
  cases x with
  | valid a => simp
  | invalid issues => simpa [Checked.issues] using (h issues rfl).1

theorem IsExplained.path_eq_nil {x : Checked α} (h : x.IsExplained) {i : Issue}
    (hi : i ∈ x.issues) : i.path = [] := by
  cases x with
  | valid a => cases hi
  | invalid issues => exact (h issues rfl).2 i hi

end Checked

namespace Reader

/-- Every value that the reader refuses is refused with an explanation. -/
def Explains (r : Reader α) : Prop := ∀ v, (r v).IsExplained

theorem explains_string : Explains string := by
  intro v
  unfold string
  split
  · exact Checked.isExplained_valid _
  · unfold mismatch
    split <;> exact Checked.isExplained_problem _

theorem explains_option (table : List (String × α)) (numbers : Bool) :
    Explains (option table numbers) := by
  have hchoose : ∀ received, (choose table received).IsExplained := by
    intro received
    unfold choose
    split
    · exact Checked.isExplained_valid _
    · exact Checked.isExplained_problem _
  intro v
  unfold option
  split
  · exact Checked.isExplained_problem _
  · exact hchoose _
  · exact Checked.isExplained_problem _
  · split
    · exact hchoose _
    · exact Checked.isExplained_problem _
  · exact Checked.isExplained_problem _

theorem Explains.atLeast {r : Reader String} (h : r.Explains) (least : Nat) (p : Problem) :
    (r.atLeast least p).Explains := by
  intro v
  unfold Reader.atLeast
  split
  · split
    · exact Checked.isExplained_valid _
    · exact Checked.isExplained_problem _
  · next issues hr => exact hr ▸ h v

variable {r : Reader α}

/-- What is made of a missing value may be explained on its own. -/
theorem Explains.of_some (h : r.Explains) {r' : Reader α} (hnone : (r' none).IsExplained)
    (hsome : ∀ v, r' (some v) = r (some v)) : r'.Explains := by
  intro v
  cases v with
  | none => exact hnone
  | some v =>
    rw [hsome]
    exact h (some v)

theorem Explains.orProblem (h : r.Explains) (p : Problem) : (r.orProblem p).Explains :=
  h.of_some (Checked.isExplained_problem p) fun _ => rfl

theorem Explains.orDefault (h : r.Explains) (value : α) : (r.orDefault value).Explains :=
  h.of_some (Checked.isExplained_valid value) fun _ => rfl

theorem Explains.optional (h : r.Explains) : r.optional.Explains := by
  intro v
  cases v with
  | none => exact Checked.isExplained_valid none
  | some v =>
    have hv := h (some v)
    show ((r (some v)).map some).IsExplained
    cases hr : r (some v) with
    | valid a => exact Checked.isExplained_valid (some a)
    | invalid issues =>
      intro more hmore
      exact hv more (hr.trans (congrArg _ (Checked.invalid.inj hmore)))

end Reader

end Schema

namespace Settings

/-! ### Numbers -/

/-- A positive integer is read of what stands for one, and of nothing else. -/
theorem positive_eq_valid {v : Json} {n : Nat} :
    positive v = .valid n ↔ v.toNumber?.getD .nan = .integer n ∧ 0 < n := by
  unfold positive
  cases v.toNumber?.getD .nan with
  | nan => simp [Checked.problem]
  | integer i =>
    simp only [Number.toInt?, Number.integer.injEq]
    split
    · simp only [Checked.valid.injEq]
      omega
    · simp only [reduceCtorEq, false_iff]
      omega
  | fraction half depth => simp [Number.toInt?]
  | infinite negative => simp [Number.toInt?]

theorem explains_positive (v : Json) : (positive v).IsExplained := by
  unfold positive
  cases v.toNumber?.getD .nan with
  | nan => exact Checked.isExplained_problem _
  | integer i =>
    dsimp only [Number.toInt?, Number.isPositive]
    split
    · exact Checked.isExplained_valid _
    · next hi => exact Checked.isExplained_invalid (by simp [hi])
  | fraction half depth => exact Checked.isExplained_invalid (List.cons_ne_nil _ _)
  | infinite negative => exact Checked.isExplained_invalid (List.cons_ne_nil _ _)

theorem explains_positiveOr (value : Nat) : (positiveOr value).Explains := by
  intro v
  cases v with
  | none => exact Checked.isExplained_valid value
  | some v => exact explains_positive v

/-- What is read of a number is positive, also where it is the default. -/
theorem pos_of_positiveOr {value n : Nat} {v : Option Json} (hvalue : 0 < value)
    (h : positiveOr value v = .valid n) : 0 < n := by
  cases v with
  | none => rwa [← Checked.valid.inj h]
  | some v => exact (positive_eq_valid.1 h).2

/-! ### The variables -/

/-- The variables that the service reads. -/
inductive Variable where
  | port | host | databasePort | user | password | database | synchronize | cloudMode
  | encryptionKey | probeTimeout | localDirectory | rcloneBinary
  deriving DecidableEq, Repr

namespace Variable

/-- The variables in the order in which they are checked. -/
def all : List Variable :=
  [port, host, databasePort, user, password, database, synchronize, cloudMode, encryptionKey,
    probeTimeout, localDirectory, rcloneBinary]

/-- The name of a variable. -/
def name : Variable → String
  | port => "PORT"
  | host => "POSTGRES_HOST"
  | databasePort => "POSTGRES_PORT"
  | user => "POSTGRES_USER"
  | password => "POSTGRES_PASSWORD"
  | database => "POSTGRES_DB"
  | synchronize => "TYPEORM_SYNC"
  | cloudMode => "IS_CLOUD"
  | encryptionKey => "STORAGE_ENCRYPTION_KEY"
  | probeTimeout => "STORAGE_CONNECTION_TEST_TIMEOUT_MS"
  | localDirectory => "LOCAL_STORAGE_PATH"
  | rcloneBinary => "RCLONE_BINARY"

/-- What a variable is read as. -/
def Value : Variable → Type
  | port | databasePort | probeTimeout => Nat
  | synchronize | cloudMode => Bool
  | localDirectory => Option String
  | host | user | password | database | encryptionKey | rcloneBinary => String

/-- How a variable is read. -/
def reader : (v : Variable) → Reader v.Value
  | port => positiveOr 3000
  | host => string.orDefault "localhost"
  | databasePort => positiveOr 5432
  | user => string.orDefault "postgres"
  | password => string.orDefault "postgres"
  | database => string.orDefault "backups"
  | synchronize => flag
  | cloudMode => flag
  | encryptionKey => key "STORAGE_ENCRYPTION_KEY"
  | probeTimeout => positiveOr 10000
  | localDirectory => filled.optional
  | rcloneBinary => filled.orDefault "rclone"

/-- The setting that a variable gives. -/
def setting : (v : Variable) → Settings → v.Value
  | port, s => s.port
  | host, s => s.database.host
  | databasePort, s => s.database.port
  | user, s => s.database.username
  | password, s => s.database.password
  | database, s => s.database.database
  | synchronize, s => s.database.synchronize
  | cloudMode, s => s.cloudMode
  | encryptionKey, s => s.encryptionKey
  | probeTimeout, s => s.probeTimeout
  | localDirectory, s => s.localDirectory
  | rcloneBinary, s => s.rcloneBinary

theorem mem_all (v : Variable) : v ∈ all := by cases v <;> decide

theorem nodup_names : (all.map name).Nodup := by decide

theorem name_injective {v w : Variable} (h : v.name = w.name) : v = w :=
  List.inj_on_of_nodup_map nodup_names (mem_all v) (mem_all w) h

theorem forall_iff {P : Variable → Prop} :
    (∀ v, P v) ↔ P port ∧ P host ∧ P databasePort ∧ P user ∧ P password ∧ P database ∧
      P synchronize ∧ P cloudMode ∧ P encryptionKey ∧ P probeTimeout ∧ P localDirectory ∧
      P rcloneBinary := by
  constructor
  · intro h
    exact ⟨h _, h _, h _, h _, h _, h _, h _, h _, h _, h _, h _, h _⟩
  · rintro ⟨_, _, _, _, _, _, _, _, _, _, _, _⟩ v
    cases v <;> assumption

/-- Every variable that is refused is refused with an explanation. -/
theorem explains (v : Variable) : v.reader.Explains := by
  have hfilled : filled.Explains := Reader.explains_string.atLeast 1 _
  have hflag : flag.Explains := (Reader.explains_option _ _).orDefault _
  cases v with
  | port | databasePort | probeTimeout => exact explains_positiveOr _
  | host | user | password | database => exact Reader.explains_string.orDefault _
  | synchronize | cloudMode => exact hflag
  | encryptionKey => exact (Reader.explains_string.orProblem _).atLeast _ _
  | localDirectory => exact hfilled.optional
  | rcloneBinary => exact hfilled.orDefault _

/-- Every default passes the check of its variable, since there is a text that gives it; only the
directory has none. -/
theorem exists_text_of_missing {v : Variable} (hv : v ≠ localDirectory) {a : v.Value}
    (h : v.reader none = .valid a) : ∃ text, v.reader (some (.string text)) = .valid a := by
  cases v with
  | port => exact ⟨"3000", h ▸ rfl⟩
  | host => exact ⟨"localhost", h ▸ rfl⟩
  | databasePort => exact ⟨"5432", h ▸ rfl⟩
  | user | password => exact ⟨"postgres", h ▸ rfl⟩
  | database => exact ⟨"backups", h ▸ rfl⟩
  | synchronize | cloudMode => exact ⟨"false", h ▸ rfl⟩
  | encryptionKey => cases h
  | probeTimeout => exact ⟨"10000", h ▸ rfl⟩
  | localDirectory => exact absurd rfl hv
  | rcloneBinary => exact ⟨"rclone", h ▸ rfl⟩

end Variable

/-! ### An environment is read by reading its variables -/

variable {o o' : Json} {s : Settings}

open Checked (eq_valid_iff yields_map yields_seq yields_eq yields_eq_and yields_and_left) in
/-- The settings of an environment are those that its variables give. -/
theorem read_eq_valid :
    read o = .valid s ↔ ∀ v : Variable, v.reader (o.get? v.name) = .valid (v.setting s) := by
  obtain ⟨port, ⟨host, databasePort, user, password, database, synchronize⟩, cloudMode,
    encryptionKey, probeTimeout, localDirectory, rcloneBinary⟩ := s
  rw [read, eq_valid_iff]
  simp only [yields_map, yields_seq]
  simp only [build, Settings.mk.injEq, DatabaseSettings.mk.injEq, and_assoc, yields_eq,
    yields_eq_and, yields_and_left, field_eq_valid]
  rw [Variable.forall_iff]
  exact Iff.rfl

/-- What is told of an environment is what is told of its variables, in their order. -/
theorem issues_read (o : Json) :
    (read o).issues = Variable.all.flatMap fun v => (field o v.name v.reader).issues := by
  simp only [read, Checked.issues_seq, Checked.issues_map, List.append_assoc]
  simp only [Variable.all, List.flatMap_cons, List.flatMap_nil, List.append_nil]
  rfl

/-- Nothing but the variables is read. -/
theorem read_congr (h : ∀ v : Variable, o'.get? v.name = o.get? v.name) : read o' = read o := by
  simp only [Variable.forall_iff, Variable.name] at h
  obtain ⟨h1, h2, h3, h4, h5, h6, h7, h8, h9, h10, h11, h12⟩ := h
  simp only [read, field, h1, h2, h3, h4, h5, h6, h7, h8, h9, h10, h11, h12]

/-- The settings made of one value for each variable. -/
def ofValues (a : (v : Variable) → v.Value) : Settings :=
  build (a .port) (a .host) (a .databasePort) (a .user) (a .password) (a .database)
    (a .synchronize) (a .cloudMode) (a .encryptionKey) (a .probeTimeout) (a .localDirectory)
    (a .rcloneBinary)

theorem setting_ofValues (a : (v : Variable) → v.Value) (v : Variable) :
    v.setting (ofValues a) = a v := by
  cases v <;> rfl

/-! ### Environments -/

variable {vars vars' : Members String} {v : Variable}

/-- What is told of a variable of an environment. -/
def Variable.issues (v : Variable) (vars : Members String) : List Issue :=
  (field (environment vars) v.name v.reader).issues

theorem Variable.issues_congr (h : Members.get? v.name vars' = Members.get? v.name vars) :
    v.issues vars' = v.issues vars := by
  rw [issues, issues, field, field, get?_environment, get?_environment, h]

theorem Variable.issues_eq_nil :
    v.issues vars = [] ↔ ∃ a, v.reader ((environment vars).get? v.name) = .valid a := by
  rw [issues, field, Checked.issues_under, List.map_eq_nil_iff, (v.explains _).issues_eq_nil]

/-- Every issue names the variable that it concerns. -/
theorem Variable.place_of_mem_issues {i : Issue} (h : i ∈ v.issues vars) : i.place = v.name := by
  rw [issues, field, Checked.issues_under] at h
  obtain ⟨j, hj, rfl⟩ := List.mem_map.1 h
  rw [Issue.place, Issue.under, (v.explains _).path_eq_nil hj]
  rfl

/-- Settings that were loaded have passed the check. -/
theorem check_of_load {env : Option Json} (h : load env = .ok s) : check env = .valid s := by
  rw [load] at h
  split at h
  · cases h
  · cases hc : check env with
    | valid settings =>
      rw [hc] at h
      rw [Except.ok.inj h]
    | invalid issues =>
      rw [hc] at h
      cases h

/-- Texts stand for numbers or for no number, so that only the check can fail. -/
theorem load_environment (vars : Members String) :
    load (some (environment vars)) =
      match read (environment vars) with
      | .valid s => .ok s
      | .invalid issues => .error (.invalid issues) := by
  have hreadable : isReadable (some (environment vars)) = true := by
    refine List.all_eq_true.2 fun name _ => ?_
    rw [Option.bind_some, get?_environment]
    cases Members.get? name vars <;> rfl
  rw [load, hreadable]
  rfl

theorem load_eq_ok :
    load (some (environment vars)) = .ok s ↔ read (environment vars) = .valid s := by
  rw [load_environment]
  cases read (environment vars) <;> simp

/-- Every variable of an environment that is loaded is read as its setting. -/
theorem reads_of_load (h : load (some (environment vars)) = .ok s) (v : Variable) :
    v.reader ((Members.get? v.name vars).map Json.string) = .valid (v.setting s) := by
  rw [← get?_environment]
  exact read_eq_valid.1 (load_eq_ok.1 h) v

/-- `n` is the positive integer that a variable stands for, or the default of a missing one. -/
structure IsNumberOf (vars : Members String) (name : String) (default n : Nat) : Prop where
  pos : 0 < n
  number_eq : ((Members.get? name vars).map Number.ofText).getD (.integer default) = .integer n

theorem isNumberOf_of_positiveOr {name : String} {default n : Nat} (hdefault : 0 < default)
    (h : positiveOr default ((Members.get? name vars).map Json.string) = .valid n) :
    IsNumberOf vars name default n := by
  refine ⟨pos_of_positiveOr hdefault h, ?_⟩
  cases htext : Members.get? name vars with
  | none =>
    rw [htext] at h
    obtain rfl : default = n := Checked.valid.inj h
    rfl
  | some text =>
    rw [htext] at h
    exact (positive_eq_valid.1 h).1

/-- The service accepts the environment. -/
def accepts (vars : Members String) : Bool := (load (some (environment vars))).isOk

/-- The issues that are listed of an environment, none if it is accepted. -/
def issuesOf (vars : Members String) : List Issue :=
  match load (some (environment vars)) with
  | .error (.invalid issues) => issues
  | _ => []

theorem issuesOf_eq (vars : Members String) :
    issuesOf vars = Variable.all.flatMap fun v => v.issues vars := by
  rw [issuesOf, load_environment]
  refine Eq.trans ?_ (issues_read (environment vars))
  cases read (environment vars) <;> rfl

theorem accepts_iff_load : accepts vars = true ↔ ∃ s, load (some (environment vars)) = .ok s := by
  rw [accepts]
  cases load (some (environment vars)) <;> simp [Except.isOk, Except.toBool]

/-- **An environment is accepted just if nothing is told of any variable.** -/
theorem accepts_iff : accepts vars = true ↔ ∀ v : Variable, v.issues vars = [] := by
  simp only [accepts_iff_load, load_eq_ok, read_eq_valid, Variable.issues_eq_nil]
  constructor
  · rintro ⟨s, hs⟩ v
    exact ⟨_, hs v⟩
  · intro h
    choose a ha using h
    refine ⟨ofValues a, fun v => ?_⟩
    rw [ha, setting_ofValues]

end Settings

end Depository
