import Depository.Proofs.Backend.Validation
import Depository.Variant

/-!
# Variants that are stored

A stored variant is in normal form, has no plain secret, and is one that the rules of its backend
accept even as a new one.  That is what encryption makes of a new variant that was accepted
(`Variant.IsSound.of_protects`), and what it makes of an update of a stored variant that was
accepted as an update only (`Variant.IsSound.of_merge`).

* `Variant.IsNormal` — the variant is read from what is written of it;
* `Variant.Protects` — encryption succeeds;
* `Variant.IsSound` — the variant may stand in the table of storages.
-/

namespace Depository

namespace Variant

/-! ### The normal form -/

/-- The variant is read from what is written of it. -/
def IsNormal (v : Variant) : Prop := parse v.backend (some v.payload) = .ok v

/-- Whatever is written of a variant is read, with its texts trimmed. -/
theorem parse_payload (b : Backend) (c : b.Config) :
    parse b (some (payload ⟨b, c⟩)) = .ok ⟨b, b.trim c⟩ := by
  have h : (b.readConfig (b.writeConfig c)).under b.payloadKey = .valid (b.trim c) := by
    rw [b.readConfig_writeConfig]
    rfl
  simp only [parse, payload, required, Backend.writeConfig, bind, Except.bind] at h ⊢
  rw [h]
  rfl

theorem isNormal_iff {b : Backend} {c : b.Config} : IsNormal ⟨b, c⟩ ↔ b.trim c = c := by
  rw [IsNormal, parse_payload, Except.ok.injEq, Variant.mk.injEq]
  simp

/-- A variant is read from its name and from what is written of it, with its texts trimmed. -/
theorem parseNamed_payload (v : Variant) :
    parseNamed v.typeName (some v.payload) = .ok (some ⟨v.backend, v.backend.trim v.config⟩) := by
  have hparse : parse v.backend (some v.payload) = .ok ⟨v.backend, v.backend.trim v.config⟩ :=
    parse_payload v.backend v.config
  rw [parseNamed, typeName, Backend.ofName?_name]
  dsimp only
  rw [hparse]
  rfl

/-- A variant in normal form is read just as it is. -/
theorem IsNormal.parseNamed {v : Variant} (h : v.IsNormal) :
    Variant.parseNamed v.typeName (some v.payload) = .ok (some v) := by
  rw [parseNamed_payload, isNormal_iff.1 h]

/-- The backend of a variant is told by the type that is written of it. -/
theorem backend_of_typeName {v : Variant} {b : Backend}
    (h : Cell.ofText v.typeName = .ofText b.name) : v.backend = b := by
  have hname : v.backend.name = b.name := by simpa [Cell.ofText, typeName] using h
  have hread := congrArg Backend.ofName? hname
  rw [Backend.ofName?_name, Backend.ofName?_name] at hread
  exact Option.some.inj hread

/-- What is read of a submitted configuration: its members as an object, and the configuration. -/
theorem parse_eq_ok {b : Backend} {submitted : Option Json} {v : Variant}
    (h : parse b submitted = .ok v) :
    ∃ o c, required b submitted = .ok o ∧ b.readConfig o = .valid c ∧ v = ⟨b, c⟩ := by
  unfold parse at h
  cases ho : required b submitted with
  | error e => simp [ho, bind, Except.bind] at h
  | ok o =>
    simp only [ho, bind, Except.bind] at h
    cases hc : (b.readConfig o).under b.payloadKey with
    | invalid issues => simp [hc] at h
    | valid c =>
      simp only [hc] at h
      exact ⟨o, c, rfl, Schema.Checked.under_eq_valid.1 hc, (Except.ok.inj h).symm⟩

/-- A submitted variant is in normal form. -/
theorem isNormal_of_parse {b : Backend} {submitted : Option Json} {v : Variant}
    (h : parse b submitted = .ok v) : v.IsNormal := by
  obtain ⟨o, c, -, hc, rfl⟩ := parse_eq_ok h
  exact isNormal_iff.2 (Backend.trim_of_readConfig hc)

theorem backend_of_parse {b : Backend} {submitted : Option Json} {v : Variant}
    (h : parse b submitted = .ok v) : v.backend = b := by
  obtain ⟨o, c, -, -, rfl⟩ := parse_eq_ok h
  rfl

/-- The variant of a name is one of its backend; a name without a backend has none. -/
theorem parseNamed_eq_ok {name : String} {submitted : Option Json} {x : Option Variant}
    (h : parseNamed name submitted = .ok x) :
    (Backend.ofName? name = none ∧ x = none) ∨
      ∃ b c, Backend.ofName? name = some b ∧ parse b submitted = .ok ⟨b, c⟩ ∧ x = some ⟨b, c⟩ := by
  rw [parseNamed] at h
  cases hb : Backend.ofName? name with
  | none =>
    rw [hb] at h
    exact .inl ⟨rfl, (Except.ok.inj h).symm⟩
  | some b =>
    simp only [hb] at h
    cases hv : parse b submitted with
    | error e =>
      rw [hv] at h
      cases h
    | ok v =>
      rw [hv] at h
      obtain ⟨o, c, -, -, rfl⟩ := parse_eq_ok hv
      exact .inr ⟨b, c, rfl, hv, (Except.ok.inj h).symm⟩

/-- A submitted configuration that is not read is refused as an invalid value. -/
theorem invalid_of_parse {b : Backend} {submitted : Option Json} {e : Failure}
    (h : parse b submitted = .error e) : ∃ cause, e = .invalid cause := by
  rw [parse] at h
  cases ho : required b submitted with
  | error e' =>
    rw [ho] at h
    obtain rfl := Except.error.inj h
    unfold required at ho
    split at ho
    · cases b <;> cases ho <;> exact ⟨_, rfl⟩
    · cases b <;> cases ho <;> exact ⟨_, rfl⟩
    · cases ho
  | ok o =>
    simp only [ho, bind, Except.bind] at h
    split at h
    · cases h
    · exact ⟨_, (Except.error.inj h).symm⟩

/-- What is read are the members of the submitted object; for local disk it does not matter what
was submitted. -/
theorem readMembers_of_parse {b : Backend} {submitted : Option Json} {c : b.Config}
    (h : parse b submitted = .ok ⟨b, c⟩) :
    b = .localDisk ∨ ∃ o, submitted = some o ∧ b.readMembers o = .valid c := by
  by_cases hb : b = .localDisk
  · exact .inl hb
  obtain ⟨o, d, ho, hd, hv⟩ := parse_eq_ok h
  obtain rfl : c = d := by simpa using hv
  -- nothing is made up where nothing was submitted, but for local disk
  have hsubmitted : submitted = some o := by
    unfold required at ho
    split at ho
    · cases b <;> simp_all
    · cases b <;> simp_all
    · rw [Except.ok.inj ho]
  refine .inr ⟨o, hsubmitted, ?_⟩
  cases o with
  | object members => exact hd
  | _ => cases hd

/-- Configurations that were read of values with the same members besides the secrets are the same
besides the secrets. -/
theorem hide_of_parse {b : Backend} {x y : Option Json} {c d : b.Config}
    (h : ∀ key ∉ b.secretKeys, x.bind (Json.get? key) = y.bind (Json.get? key))
    (hx : parse b x = .ok ⟨b, c⟩) (hy : parse b y = .ok ⟨b, d⟩) : b.hide c = b.hide d := by
  rcases readMembers_of_parse hx with rfl | ⟨o, rfl, ho⟩
  · rfl
  rcases readMembers_of_parse hy with rfl | ⟨p, rfl, hp⟩
  · rfl
  exact Backend.hide_of_readMembers (fun key hkey => h key hkey) ho hp

/-! ### Updates -/

theorem merge_same (b : Backend) (c d : b.Config) :
    merge ⟨b, c⟩ ⟨b, d⟩ = ⟨⟨b, Secret.keepAll b.secrets c d⟩, false⟩ := by
  simp [merge]

theorem merge_other {v w : Variant} (h : v.backend ≠ w.backend) : v.merge w = ⟨w, true⟩ := by
  rw [merge, dif_neg h]

/-- An update in normal form makes a variant in normal form, whatever it is merged into. -/
theorem isNormal_merge (v : Variant) {i : Variant} (hi : i.IsNormal) :
    (v.merge i).variant.IsNormal := by
  obtain ⟨b, c⟩ := v
  obtain ⟨b', d⟩ := i
  by_cases hb : b = b'
  · subst hb
    rw [merge_same]
    exact isNormal_iff.2 (Backend.trim_of_hide (b.hide_keepAll c d).symm (isNormal_iff.1 hi))
  · rwa [merge_other hb]

/-- An update has the backend of what was submitted. -/
theorem backend_merge (v w : Variant) : (v.merge w).variant.backend = w.backend := by
  rw [merge]
  split <;> rfl

/-- A variant with hidden secrets is no change of it. -/
theorem merge_hide (v : Variant) : v.merge v.hide = ⟨v, false⟩ := by
  obtain ⟨b, c⟩ := v
  rw [hide, merge_same, Backend.keepAll_hide]

theorem isNormal_hide {v : Variant} (h : v.IsNormal) : v.hide.IsNormal := by
  obtain ⟨b, c⟩ := v
  rw [hide, isNormal_iff, b.trim_hide, isNormal_iff.1 h]

/-! ### Encryption -/

/-- Encryption of `v` for its owner succeeds, from some nonce on, and gives `w`. -/
def Protects (key : String) (owner : Cell) (nonces : Nat → Bytes) (v w : Variant) : Prop :=
  ∃ used, (v.protect key owner nonces used).fault = none ∧
    (v.protect key owner nonces used).variant = w

variable {key : String} {owner : Cell} {nonces : Nat → Bytes}

/-- What encryption gives: secrets that are stored, and everything else as it was. -/
theorem Protects.config {b : Backend} {c : b.Config} {w : Variant}
    (h : Protects key owner nonces ⟨b, c⟩ w) :
    ∃ d, w = ⟨b, d⟩ ∧ b.hide c = b.hide d ∧
      ∀ f ∈ b.secrets, Secret.Protects key owner nonces (f.get c) (f.get d) := by
  obtain ⟨used, hok, rfl⟩ := h
  refine ⟨_, rfl, ?_, Secret.get_protectAll b.secrets_independent hok⟩
  exact (Secret.protectAll_of_ignores b.ignores_hide used c).symm

theorem Protects.backend {v w : Variant} (h : Protects key owner nonces v w) :
    w.backend = v.backend := by
  obtain ⟨used, -, rfl⟩ := h
  rfl

/-- Encryption keeps the normal form. -/
theorem Protects.isNormal {v w : Variant} (hv : v.IsNormal)
    (hp : Protects key owner nonces v w) : w.IsNormal := by
  obtain ⟨b, c⟩ := v
  obtain ⟨d, rfl, hide, -⟩ := hp.config
  exact isNormal_iff.2 (Backend.trim_of_hide hide (isNormal_iff.1 hv))

/-! ### Stored variants -/

/-- The variant may stand in the table: it is in normal form, accepted even as a new one, and of
its secrets none is plain. -/
structure IsSound (v : Variant) : Prop where
  normal : v.IsNormal
  valid : v.validate true = .ok ()
  stored : ∀ f ∈ v.backend.secrets,
    f.get v.config = "" ∨ Field.isMarked (f.get v.config) = true

/-- A variant that may stand in the table is accepted as an update too. -/
theorem IsSound.valid_update {v : Variant} (h : v.IsSound) : v.validate false = .ok () :=
  Backend.validate_iff.2 ⟨(Backend.validate_iff.1 h.valid).1, nofun⟩

/-- Of a variant that may stand in the table nothing is left to encrypt. -/
theorem IsSound.protect {v : Variant} (h : v.IsSound) (used : Nat) :
    v.protect key owner nonces used = ⟨v, used, none⟩ := by
  rw [Variant.protect, Secret.protectAll_of_stored h.stored]

/-- A configuration is sound once it is encrypted, if it is accepted and has what a new one must
bring. -/
theorem isSound_of_accepts {b : Backend} {c : b.Config} {w : Variant} (hn : IsNormal ⟨b, c⟩)
    (ha : b.Accepts c) (hs : b.Supplied c) (hp : Protects key owner nonces ⟨b, c⟩ w) :
    w.IsSound := by
  have hnormal : w.IsNormal := hp.isNormal hn
  obtain ⟨d, rfl, hide, hget⟩ := hp.config
  have hne : ∀ f ∈ b.secrets, f.get c ≠ "" → f.get d ≠ "" := fun f hf => (hget f hf).ne_empty
  have hm : ∀ f ∈ b.secrets, f.get d = "" ∨ Field.isMarked (f.get d) = true :=
    fun f hf => (hget f hf).isMarked
  exact ⟨hnormal,
    Backend.validate_iff.2 ⟨ha.of_stored hide hne hm, fun _ => hs.mono hne⟩, hm⟩

/-- **A new variant that was accepted is sound once it is encrypted.** -/
theorem IsSound.of_protects {v w : Variant} (hn : v.IsNormal) (hv : v.validate true = .ok ())
    (hp : Protects key owner nonces v w) : w.IsSound := by
  obtain ⟨b, c⟩ := v
  obtain ⟨ha, hs⟩ := Backend.validate_iff.1 hv
  exact isSound_of_accepts hn ha (hs rfl) hp

/-- **An update of a sound variant that was accepted is sound once it is encrypted**, although an
update of the same backend was not accepted as a new one: it keeps the secrets that it leaves
empty. -/
theorem IsSound.of_merge {v i w : Variant} (h : v.IsSound) (hi : i.IsNormal)
    (hv : (v.merge i).variant.validate (v.merge i).replaced = .ok ())
    (hp : Protects key owner nonces (v.merge i).variant w) : w.IsSound := by
  have hnormal : (v.merge i).variant.IsNormal := isNormal_merge v hi
  by_cases hb : v.backend = i.backend
  · obtain ⟨b, c⟩ := v
    obtain ⟨b', d⟩ := i
    obtain rfl : b = b' := hb
    rw [merge_same] at hv hp hnormal
    -- a secret that was there is there still: it was kept, or a new one is in its place
    have hkeep : ∀ f ∈ b.secrets, f.get c ≠ "" → f.get (Secret.keepAll b.secrets c d) ≠ "" := by
      intro f hf hc
      rw [Secret.get_keepAll b.secrets_independent c d hf]
      split
      · exact hc
      · assumption
    have hs : b.Supplied c := (Backend.validate_iff.1 h.valid).2 rfl
    exact isSound_of_accepts hnormal (Backend.validate_iff.1 hv).1 (hs.mono hkeep) hp
  · -- an update of another backend is checked as a new one
    rw [merge_other hb] at hv hp
    exact .of_protects hi hv hp

end Variant

end Depository
