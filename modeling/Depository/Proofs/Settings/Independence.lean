import Depository.Proofs.Settings.Variables
import Mathlib.Data.List.Destutter

/-!
# Each variable is judged on its own

A variable is judged on its own when it is put into an environment that is accepted.  An environment
is accepted just if all its variables are, each on its own, and what is told of it is what is told
of each of them on its own, one after the other: so every variable that is refused is named, in the
order of the fields, and no other one is.

* `Members.graft` — members with what stands under one name in others;
* `destutter_flatMap` — the keys of blocks, one for each block that is not empty;
* `Settings.accepts_graft`, `Settings.issuesOf_graft` — a variable put into an accepted environment;
* `Settings.load_variablewise` — **the check is complete, and every variable is judged on its own**.
-/

namespace Depository

open Schema

namespace Members

variable {α : Type} {name other : String}

/-- The members of `base`, with what stands under `name` in `ms`. -/
def graft (name : String) (ms base : Members α) : Members α :=
  match get? name ms with
  | some value => set name value base
  | none => erase name base

theorem get?_graft_self (name : String) (ms base : Members α) :
    get? name (graft name ms base) = get? name ms := by
  rw [graft]
  cases get? name ms with
  | some value => exact get?_set_self name value base
  | none => exact get?_erase_self name base

theorem get?_graft_of_ne (h : other ≠ name) (ms base : Members α) :
    get? other (graft name ms base) = get? other base := by
  rw [graft]
  cases get? name ms with
  | some value => exact get?_set_of_ne h value base
  | none => exact get?_erase_of_ne h base

end Members

/-! ### Blocks of one key each -/

section Blocks

variable {α β : Type} {f : α → List β} {g : α → β}

/-- Where all blocks but one are empty, their list is that block. -/
theorem flatMap_eq_of_mem {l : List α} (hl : l.Nodup) {a : α} (ha : a ∈ l)
    (hf : ∀ b ∈ l, b ≠ a → f b = []) : l.flatMap f = f a := by
  obtain ⟨before, after, rfl⟩ := List.append_of_mem ha
  rw [List.nodup_middle, List.nodup_cons, List.mem_append, not_or] at hl
  have hbefore : before.flatMap f = [] :=
    List.flatMap_eq_nil_iff.2 fun b hb => hf b (by simp [hb]) fun heq => hl.1.1 (heq ▸ hb)
  have hafter : after.flatMap f = [] :=
    List.flatMap_eq_nil_iff.2 fun b hb => hf b (by simp [hb]) fun heq => hl.1.2 (heq ▸ hb)
  rw [List.flatMap_append, List.flatMap_cons, hbefore, hafter, List.nil_append, List.append_nil]

variable [DecidableEq β]

/-- More of the element that came last leaves no trace. -/
theorem destutter'_append_of_eq {b : β} {block : List β} (h : ∀ c ∈ block, c = b)
    (rest : List β) :
    (block ++ rest).destutter' (· ≠ ·) b = rest.destutter' (· ≠ ·) b := by
  induction block with
  | nil => rfl
  | cons c block ih =>
    obtain ⟨rfl, hblock⟩ := List.forall_mem_cons.1 h
    rw [List.cons_append, List.destutter'_cons_neg _ (by simp)]
    exact ih hblock

/-- After an element that is no key, the keys of the blocks follow. -/
theorem destutter'_flatMap {l : List α} (hf : ∀ a ∈ l, ∀ c ∈ f a, c = g a)
    (hg : (l.map g).Nodup) {b : β} (hb : b ∉ l.map g) :
    (l.flatMap f).destutter' (· ≠ ·) b = b :: (l.filter fun a => !(f a).isEmpty).map g := by
  induction l generalizing b with
  | nil => rfl
  | cons a l ih =>
    obtain ⟨hfa, hfl⟩ := List.forall_mem_cons.1 hf
    obtain ⟨hga, hgl⟩ := List.nodup_cons.1 hg
    obtain ⟨hba, hbl⟩ := not_or.1 (List.mem_cons.not.1 hb)
    rw [List.flatMap_cons]
    cases hblock : f a with
    | nil =>
      rw [List.nil_append, ih hfl hgl hbl, List.filter_cons_of_neg (by simp [hblock])]
    | cons c block =>
      rw [hblock] at hfa
      obtain ⟨rfl, hmore⟩ := List.forall_mem_cons.1 hfa
      rw [List.cons_append, List.destutter'_cons_pos _ hba, destutter'_append_of_eq hmore,
        ih hfl hgl hga, List.filter_cons_of_pos (by simp [hblock]), List.map_cons]

/-- **Blocks of one key each, and the keys all different.**  Without the repetitions there is just
one key for each block that is not empty, in the order of the blocks. -/
theorem destutter_flatMap {l : List α} (hf : ∀ a ∈ l, ∀ c ∈ f a, c = g a)
    (hg : (l.map g).Nodup) :
    (l.flatMap f).destutter (· ≠ ·) = (l.filter fun a => !(f a).isEmpty).map g := by
  induction l with
  | nil => rfl
  | cons a l ih =>
    obtain ⟨hfa, hfl⟩ := List.forall_mem_cons.1 hf
    obtain ⟨hga, hgl⟩ := List.nodup_cons.1 hg
    rw [List.flatMap_cons]
    cases hblock : f a with
    | nil => rw [List.nil_append, ih hfl hgl, List.filter_cons_of_neg (by simp [hblock])]
    | cons c block =>
      rw [hblock] at hfa
      obtain ⟨rfl, hmore⟩ := List.forall_mem_cons.1 hfa
      rw [List.cons_append, List.destutter, destutter'_append_of_eq hmore,
        destutter'_flatMap hfl hgl hga, List.filter_cons_of_pos (by simp [hblock]), List.map_cons]

end Blocks

namespace Settings

variable {vars base others : Members String} {s t : Settings} {v : Variable}

/-! ### A variable in an accepted environment -/

theorem issues_graft_self (v : Variable) (vars base : Members String) :
    v.issues (Members.graft v.name vars base) = v.issues vars :=
  Variable.issues_congr (Members.get?_graft_self v.name vars base)

/-- Nothing is told of the other variables of an accepted environment. -/
theorem issues_graft_of_ne (hbase : accepts base = true) {w : Variable} (h : w ≠ v)
    (vars : Members String) : w.issues (Members.graft v.name vars base) = [] := by
  have hname : w.name ≠ v.name := fun hname => h (Variable.name_injective hname)
  rw [Variable.issues_congr (Members.get?_graft_of_ne hname vars base), accepts_iff.1 hbase w]

/-- What is told of a variable on its own is what is told of it anywhere. -/
theorem issuesOf_graft (hbase : accepts base = true) (v : Variable) (vars : Members String) :
    issuesOf (Members.graft v.name vars base) = v.issues vars := by
  rw [issuesOf_eq, flatMap_eq_of_mem (List.Nodup.of_map _ Variable.nodup_names) v.mem_all
    fun w _ hw => issues_graft_of_ne hbase hw vars]
  exact issues_graft_self v vars base

/-- A variable is accepted on its own just if nothing is told of it. -/
theorem accepts_graft (hbase : accepts base = true) (v : Variable) (vars : Members String) :
    accepts (Members.graft v.name vars base) = true ↔ v.issues vars = [] := by
  rw [accepts_iff]
  constructor
  · intro h
    rw [← issues_graft_self v vars base]
    exact h v
  · intro h w
    by_cases hw : w = v
    · rw [hw, issues_graft_self, h]
    · exact issues_graft_of_ne hbase hw vars

/-- The places of the issues are the names of the variables that are refused on their own. -/
theorem destutter_places (hbase : accepts base = true) (vars : Members String) :
    ((issuesOf vars).map Issue.place).destutter (· ≠ ·) =
      (Variable.all.filter fun v => !accepts (Members.graft v.name vars base)).map
        Variable.name := by
  have hplaces : (issuesOf vars).map Issue.place =
      Variable.all.flatMap fun v => (v.issues vars).map Issue.place := by
    rw [issuesOf_eq, List.map_flatMap]
  have hplace : ∀ v ∈ Variable.all, ∀ place ∈ (v.issues vars).map Issue.place,
      place = v.name := by
    intro v _ place hmem
    obtain ⟨i, hi, rfl⟩ := List.mem_map.1 hmem
    exact Variable.place_of_mem_issues hi
  have hrefused : ∀ v : Variable, (!((v.issues vars).map Issue.place).isEmpty) =
      !accepts (Members.graft v.name vars base) := by
    intro v
    have halone := accepts_graft hbase v vars
    cases hissues : v.issues vars with
    | nil =>
      rw [halone.2 hissues]
      rfl
    | cons i more =>
      rw [hissues] at halone
      rw [Bool.eq_false_iff.2 fun haccepts => List.cons_ne_nil _ _ (halone.1 haccepts)]
      rfl
  rw [hplaces, destutter_flatMap hplace Variable.nodup_names]
  simp only [hrefused]

/-! ### Settings of accepted environments -/

/-- A setting depends on its own variable only. -/
theorem setting_congr (hs : load (some (environment vars)) = .ok s)
    (ht : load (some (environment others)) = .ok t)
    (h : Members.get? v.name others = Members.get? v.name vars) : v.setting t = v.setting s := by
  have hread := reads_of_load ht v
  rw [h, reads_of_load hs v] at hread
  exact (Checked.valid.inj hread).symm

/-- The key is what stands in its variable, and it is not too short. -/
theorem key_of_load (h : load (some (environment vars)) = .ok s) :
    Members.get? "STORAGE_ENCRYPTION_KEY" vars = some s.encryptionKey ∧
      leastKeyLength ≤ Text.unitCount s.encryptionKey := by
  have hkey : key "STORAGE_ENCRYPTION_KEY"
      ((Members.get? "STORAGE_ENCRYPTION_KEY" vars).map Json.string) = .valid s.encryptionKey :=
    reads_of_load h .encryptionKey
  cases htext : Members.get? "STORAGE_ENCRYPTION_KEY" vars with
  | none =>
    rw [htext] at hkey
    cases hkey
  | some text =>
    rw [htext] at hkey
    have hlong : (if leastKeyLength ≤ Text.unitCount text then Checked.valid text
        else .problem (.tooShortNamed "STORAGE_ENCRYPTION_KEY" leastKeyLength)) =
          .valid s.encryptionKey := hkey
    split at hlong
    · next hleast =>
      obtain rfl := Checked.valid.inj hlong
      exact ⟨rfl, hleast⟩
    · cases hlong

/-- Variables that the service does not read have no effect. -/
theorem load_congr (h : ∀ v : Variable, Members.get? v.name others = Members.get? v.name vars) :
    load (some (environment others)) = load (some (environment vars)) := by
  have hread : read (environment others) = read (environment vars) :=
    read_congr fun v => by rw [get?_environment, get?_environment, h v]
  rw [load_environment, load_environment, hread]

/-- The message of a refusal lists the issues. -/
theorem message_of_load {fault : Fault} (h : load (some (environment vars)) = .error fault) :
    fault.message = "Invalid configuration: " ++
      "; ".intercalate ((issuesOf vars).map fun i => i.place ++ ": " ++ i.problem.message) := by
  rw [load_environment] at h
  rw [issuesOf, load_environment]
  cases hread : read (environment vars) with
  | valid s =>
    rw [hread] at h
    cases h
  | invalid issues =>
    rw [hread] at h
    obtain rfl := Except.error.inj h
    rfl

/-- **The check is complete, and every variable is judged on its own**, that is, in any environment
that is accepted but for this variable.  An environment is accepted if and only if every variable is
accepted on its own.  The message of a refusal lists what is told of each variable on its own, in
the order of the variables; without repetitions, the places in it are the names of those that are
refused on their own.  Where the environment is accepted, each setting depends on its own variable
only, the three numbers are positive integers that the texts stand for, and the key is long enough.
Variables that the service does not read have no effect. -/
theorem load_variablewise (hbase : accepts base = true) (vars : Members String) :
    (accepts vars = true ↔ ∀ v : Variable, accepts (Members.graft v.name vars base) = true) ∧
    (∀ fault, load (some (environment vars)) = .error fault →
      fault.message = "Invalid configuration: " ++
        "; ".intercalate ((issuesOf vars).map fun i => i.place ++ ": " ++ i.problem.message) ∧
      issuesOf vars =
        Variable.all.flatMap (fun v => issuesOf (Members.graft v.name vars base)) ∧
      ((issuesOf vars).map Issue.place).destutter (· ≠ ·) =
        (Variable.all.filter fun v => !accepts (Members.graft v.name vars base)).map
          Variable.name) ∧
    (∀ s, load (some (environment vars)) = .ok s →
      (∀ (v : Variable) others t, load (some (environment others)) = .ok t →
        Members.get? v.name others = Members.get? v.name vars → v.setting t = v.setting s) ∧
      IsNumberOf vars "PORT" 3000 s.port ∧
      IsNumberOf vars "POSTGRES_PORT" 5432 s.database.port ∧
      IsNumberOf vars "STORAGE_CONNECTION_TEST_TIMEOUT_MS" 10000 s.probeTimeout ∧
      Members.get? "STORAGE_ENCRYPTION_KEY" vars = some s.encryptionKey ∧
      32 ≤ Text.unitCount s.encryptionKey) ∧
    ∀ others, (∀ v : Variable, Members.get? v.name others = Members.get? v.name vars) →
      load (some (environment others)) = load (some (environment vars)) := by
  refine ⟨?accepted, fun fault hfault => ⟨message_of_load hfault, ?issues, ?names⟩,
    fun s hs => ⟨fun v others t ht => setting_congr hs ht, ?port, ?databasePort, ?timeout,
      key_of_load hs⟩, fun others => load_congr⟩
  case accepted =>
    rw [accepts_iff]
    exact forall_congr' fun v => (accepts_graft hbase v vars).symm
  case issues =>
    simp only [issuesOf_graft hbase]
    exact issuesOf_eq vars
  case names => exact destutter_places hbase vars
  case port => exact isNumberOf_of_positiveOr (by decide) (reads_of_load hs .port)
  case databasePort => exact isNumberOf_of_positiveOr (by decide) (reads_of_load hs .databasePort)
  case timeout => exact isNumberOf_of_positiveOr (by decide) (reads_of_load hs .probeTimeout)

/-- Two variables are refused and the key is missing; the port of the database and what the service
does not read are in order.  Where the key is there as well, and the port is a number in another
spelling, the service has its settings. -/
theorem load_variablewise_faults :
    let base := [("STORAGE_ENCRYPTION_KEY", "0123456789abcdef0123456789abcdef")]
    let vars := [("IS_CLOUD", "yes"), ("POSTGRES_PORT", " 0x1F "), ("PORT", "-2.5"), ("HOME", "/")]
    let mended := [("PORT", "1e3"), ("POSTGRES_PORT", " 0x1F "), ("HOME", "/")] ++ base
    accepts base = true ∧
      (accepts vars = false ∧
        ((issuesOf vars).map Issue.place).destutter (· ≠ ·) =
          ["PORT", "IS_CLOUD", "STORAGE_ENCRYPTION_KEY"] ∧
        ∃ fault, load (some (environment vars)) = .error fault ∧
          fault.message = "Invalid configuration: PORT: Expected integer, received float; " ++
            "PORT: Number must be greater than 0; IS_CLOUD: Invalid enum value. " ++
            "Expected 'true' | 'false', received 'yes'; " ++
            "STORAGE_ENCRYPTION_KEY: STORAGE_ENCRYPTION_KEY is required") ∧
      ∃ s, load (some (environment mended)) = .ok s ∧ s.port = 1000 ∧ s.database.port = 31 := by
  intro base vars mended
  have hbase : accepts base = true := by decide
  refine ⟨hbase, ⟨by decide, ?refused⟩, ?accepted⟩
  case refused =>
    obtain ⟨-, hfault, -⟩ := load_variablewise hbase vars
    obtain ⟨fault, hload⟩ : ∃ fault, load (some (environment vars)) = .error fault := ⟨_, rfl⟩
    obtain ⟨hmessage, -, hnames⟩ := hfault fault hload
    refine ⟨hnames.trans (by decide), fault, hload, hmessage.trans ?_⟩
    decide +kernel
  case accepted =>
    obtain ⟨-, -, hsettings, -⟩ := load_variablewise hbase mended
    obtain ⟨s, hload⟩ : ∃ s, load (some (environment mended)) = .ok s := ⟨_, rfl⟩
    obtain ⟨-, hport, hdatabasePort, -⟩ := hsettings s hload
    have hthousand : Number.ofText "1e3" = .integer 1000 := by decide
    have hhex : Number.ofText " 0x1F " = .integer 31 := by decide
    have h1 := Number.integer.inj (hthousand.symm.trans hport.number_eq)
    have h2 := Number.integer.inj (hhex.symm.trans hdatabasePort.number_eq)
    exact ⟨s, hload, by omega, by omega⟩

end Settings

end Depository
