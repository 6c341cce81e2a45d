import Depository.Proofs.Sealed
import Depository.Proofs.Service.Request
import Mathlib.Logic.Function.Basic

/-!
# A store in clear

What the service would keep if it had no secrets to protect: under every id a record with its
configuration in clear, changed by nothing but the requests that came to a value.  The store knows
nothing of rows, of ciphers or of checks; an update overwrites the members of the configuration one
by one, except that an empty text under the key of a secret keeps the secret.

* `PlainStore` — the store, and `PlainStore.after`, the store after a request that came to a value;
* `overwrite` — the members of an updated configuration;
* `Row.Seals` — the row is the sealed copy of a plain record.
-/

namespace Depository

/-- A record in clear. -/
structure PlainRecord where
  workspaceId : String
  name : String
  isSystem : Bool
  backend : Backend
  config : Members Json

/-- The records in clear by their ids. -/
abbrev PlainStore := String → Option PlainRecord

/-- The value is an empty text. -/
def isEmptyText : Json → Bool
  | .string s => s == ""
  | _ => false

/-- The members of a configuration after an update of the same backend: every member as it was
submitted, but the present one in place of a secret that is submitted empty. -/
def overwrite (secretKeys : List String) (current submitted : Members Json) : Members Json :=
  submitted.map fun m => (m.1,
    if secretKeys.contains m.1 && isEmptyText m.2 then (Members.get? m.1 current).getD m.2
    else m.2)

namespace PlainRecord

/-- The record of a new storage. -/
def ofSubmission (workspaceId : String) (s : Submission) : PlainRecord where
  workspaceId := workspaceId
  name := Text.trim s.name
  isSystem := s.isSystem
  backend := s.variant.backend
  config := s.variant.backend.configMembers s.variant.config

/-- The record after an update; one of another backend takes the submitted configuration whole. -/
def update (p : PlainRecord) (s : Submission) : PlainRecord where
  workspaceId := p.workspaceId
  name := Text.trim s.name
  isSystem := s.isSystem
  backend := s.variant.backend
  config :=
    let submitted := s.variant.backend.configMembers s.variant.config
    if p.backend = s.variant.backend then overwrite s.variant.backend.secretKeys p.config submitted
    else submitted

end PlainRecord

namespace PlainStore

/-- The store after a request that came to its value; a new record has the id that was drawn. -/
def after (drawn : String) (store : PlainStore) : Request → PlainStore
  | .save _ workspaceId s =>
    match s.id with
    | none | some "" =>
      Function.update store drawn (some (PlainRecord.ofSubmission workspaceId s))
    | some id => Function.update store id ((store id).map fun p => p.update s)
  | .delete _ id => Function.update store id none
  | .transfer _ id target _ =>
    Function.update store id ((store id).map fun p => { p with workspaceId := target })
  | .clear workspaceId => fun id => (store id).filter fun p => p.workspaceId != workspaceId
  | .test .. | .testSubmitted .. | .read .. | .readAll .. => store

variable {drawn : String} {store : PlainStore} {actor : Actor} {workspaceId : String}
  {s : Submission}

theorem after_new (h : s.id = none ∨ s.id = some "") :
    after drawn store (.save actor workspaceId s) =
      Function.update store drawn (some (PlainRecord.ofSubmission workspaceId s)) := by
  rcases h with h | h <;> simp only [after, h]

theorem after_given {id : String} (h : s.id = some id) (hne : id ≠ "") :
    after drawn store (.save actor workspaceId s) =
      Function.update store id ((store id).map fun p => p.update s) := by
  simp only [after, h]

end PlainStore

/-! ### Sealed copies -/

/-- The row says what the plain record says, with its secrets sealed for the id: an empty secret is
stored empty, and of any other one a marked text is stored that the id opens to the secret. -/
structure Row.Seals (key id : String) (row : Row) (p : PlainRecord) : Prop where
  workspaceId : row.get? "workspaceId" = .ofText p.workspaceId
  name : row.get? "name" = .ofText p.name
  isSystem : row.get? "isSystem" = some (.bool p.isSystem)
  type : row.get? "type" = .ofText p.backend.name
  config : ∃ members, row.get? "config" = some (.object members) ∧
    Members.names members = Members.names p.config ∧
    (∀ k ∉ p.backend.secretKeys, Members.get? k members = Members.get? k p.config) ∧
    ∀ k ∈ p.backend.secretKeys, ∃ stored text, Members.get? k members = some (.string stored) ∧
      Members.get? k p.config = some (.string text) ∧ (text = "" → stored = "") ∧
      (text ≠ "" → Field.isMarked stored = true ∧ Field.decrypt key id stored = .ok text)

namespace Members

variable {α : Type}

/-- Members of the same distinct names with the same values are the same. -/
theorem ext_get? {ms ns : Members α} (hnames : names ms = names ns) (hnodup : (names ms).Nodup)
    (h : ∀ k ∈ names ms, get? k ms = get? k ns) : ms = ns := by
  induction ms generalizing ns with
  | nil =>
    cases ns with
    | nil => rfl
    | cons n ns => cases hnames
  | cons m ms ih =>
    cases ns with
    | nil => cases hnames
    | cons n ns =>
      obtain ⟨k, v⟩ := m
      obtain ⟨k', w⟩ := n
      obtain ⟨rfl, htail⟩ := List.cons.inj hnames
      obtain ⟨hnew, hnodup⟩ := List.nodup_cons.1 hnodup
      -- the first name is that of no other member, so the rest is looked up in the rest
      have hv : v = w := by simpa [get?] using h k (List.mem_cons_self ..)
      have hrest : ms = ns := by
        refine ih htail hnodup fun other hother => ?_
        have hne : k ≠ other := fun hk => hnew (hk ▸ hother)
        simpa [get?, hne] using h other (List.mem_cons_of_mem _ hother)
      rw [hv, hrest]

theorem names_map_value (ms : Members α) (f : String × α → α) :
    names (ms.map fun m => (m.1, f m)) = names ms := by
  simp [names, Function.comp_def]

theorem get?_map_value (k : String) (ms : Members α) (f : String → α → α) :
    get? k (ms.map fun m => (m.1, f m.1 m.2)) = (get? k ms).map (f k) := by
  induction ms with
  | nil => rfl
  | cons m ms ih =>
    by_cases hk : m.1 = k
    · simp [get?, hk]
    · simpa [get?, hk] using ih

end Members

namespace Backend

theorem nodup_names (b : Backend) (c : b.Config) : (Members.names (b.configMembers c)).Nodup := by
  cases b <;> simp [Members.names, configMembers, S3Config.members, NasConfig.members,
    AzureConfig.members, FtpConfig.members, SftpConfig.members, DriveConfig.members,
    RcloneConfig.members]

/-- **The members of an updated configuration** are those of the submitted one, overwritten. -/
theorem configMembers_keepAll (b : Backend) (c d : b.Config) :
    b.configMembers (Secret.keepAll b.secrets c d) =
      overwrite b.secretKeys (b.configMembers c) (b.configMembers d) := by
  refine Members.ext_get? ?_ (b.nodup_names _) fun k _ => ?_
  · rw [overwrite, Members.names_map_value]
    exact b.names_configMembers _ _
  rw [overwrite, Members.get?_map_value k _ fun k v =>
    if b.secretKeys.contains k && isEmptyText v then
      (Members.get? k (b.configMembers c)).getD v else v]
  by_cases hk : k ∈ b.secretKeys
  · -- a secret that is submitted empty is kept on both sides
    have hkey := hk
    rw [← map_key_secrets] at hkey
    obtain ⟨f, hf, rfl⟩ := List.mem_map.1 hkey
    rw [get?_secret hf, get?_secret hf, get?_secret hf,
      Secret.get_keepAll b.secrets_independent c d hf]
    by_cases hempty : f.get d = ""
    · simp [hempty, hk, isEmptyText]
    · simp [hempty, isEmptyText]
  · -- any other member is as it was submitted
    rw [← get?_hide hk, hide_keepAll, get?_hide hk]
    simp [hk]

end Backend

end Depository
