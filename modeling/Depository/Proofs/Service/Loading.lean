import Depository.Proofs.Service.Agrees
import Depository.Proofs.Service.Rows
import Depository.Service.Records

/-!
# Rows that are read alike

A row is read as a storage before anybody's rights are looked at, and its configuration is checked
then like a submitted one.  So whether it can be read, and why not, is told to everyone who names
the row, whatever else is kept from him.  Two rows are told apart by this unless both can be read or
both fail with the same issues (`Row.LoadsAlike`).  The texts of secrets make no difference here
(`Row.SameButSecrets.loadsAlike`), but a configuration that has not the form of its backend does.

* `Row.LoadsAlike` — both rows are read, or neither is and for the same reason;
* `Row.SameButSecrets` — the rows differ in the texts of secrets at most;
* `Service.get_agrees` — rows that are read alike are found alike.
-/

namespace Depository

/-- Both rows are read, or neither is and for the same reason. -/
def Row.LoadsAlike (row other : Row) : Prop :=
  ∀ e, Storage.ofRow row = .error e ↔ Storage.ofRow other = .error e

/-- What is in the cell passes for a secret: a text, null or nothing at all. -/
def Cell.IsSecretText (c : Cell) : Prop := c = none ∨ c = some .null ∨ ∃ s, c = .ofText s

/-- The configurations of the rows are objects of the same backend, with the same members but for
the texts of secrets. -/
structure Row.SameButSecrets (row other : Row) : Prop where
  type : row.text? "type" = other.text? "type"
  config : ∃ o p, row.get? "config" = some (.object o) ∧ other.get? "config" = some (.object p) ∧
    ∀ b, Backend.ofName? ((row.text? "type").getD "") = some b → ∀ key,
      Members.get? key o = Members.get? key p ∨
        key ∈ b.secretKeys ∧ Cell.IsSecretText (Members.get? key o) ∧
          Cell.IsSecretText (Members.get? key p)

section Rows

variable {row other : Row}

theorem Row.loadsAlike_of_outcomes {R : Storage → Storage → Prop}
    (h : Outcomes R (Storage.ofRow row) (Storage.ofRow other)) : row.LoadsAlike other := by
  intro e
  cases hs : Storage.ofRow row <;> cases hs' : Storage.ofRow other <;> rw [hs, hs'] at h
  case error.error e₀ e₁ =>
    obtain rfl : e₀ = e₁ := h
    exact Iff.rfl
  case ok.ok => simp
  all_goals exact h.elim

theorem Row.loadsAlike_of_ok {s s' : Storage} (hs : Storage.ofRow row = .ok s)
    (hs' : Storage.ofRow other = .ok s') : row.LoadsAlike other := by
  intro e
  simp [hs, hs']

/-- The storages of rows that are read alike are those of the rows. -/
theorem Row.LoadsAlike.outcomes (h : row.LoadsAlike other) :
    Outcomes (fun s s' => Storage.ofRow row = .ok s ∧ Storage.ofRow other = .ok s')
      (Storage.ofRow row) (Storage.ofRow other) := by
  cases hs : Storage.ofRow row with
  | error e =>
    rw [(h e).1 hs]
    exact Eq.refl e
  | ok s =>
    cases hs' : Storage.ofRow other with
    | error e => cases hs.symm.trans ((h e).2 hs')
    | ok s' => exact ⟨rfl, rfl⟩

theorem Cell.IsSecretText.refusal?_secretField {c : Cell} (h : c.IsSecretText) :
    (Backend.secretField c).refusal? = none := by
  rcases h with rfl | rfl | ⟨s, rfl⟩ <;> rfl

/-- Objects that are read, or refused for the same issues, are read as variants or refused. -/
theorem Variant.parse_alike {b : Backend} {o p : Members Json}
    (h : (b.readMembers (.object o)).refusal? = (b.readMembers (.object p)).refusal?) :
    Outcomes (fun _ _ => True) (parse b (some (.object o))) (parse b (some (.object p))) := by
  simp only [parse, required, Backend.readConfig, Schema.object, bind, Except.bind]
  cases ho : b.readMembers (.object o) <;> cases hp : b.readMembers (.object p) <;>
    rw [ho, hp] at h
  case valid.valid => trivial
  case valid.invalid => cases h
  case invalid.valid => cases h
  case invalid.invalid =>
    obtain rfl := Option.some.inj h
    exact Eq.refl _

/-- **Rows that differ in the texts of secrets at most are read alike.** -/
theorem Row.SameButSecrets.loadsAlike (h : row.SameButSecrets other) : row.LoadsAlike other := by
  obtain ⟨o, p, ho, hp, hmember⟩ := h.config
  have hparse : Outcomes (fun _ _ => True)
      (Variant.parseNamed ((row.text? "type").getD "") (row.get? "config"))
      (Variant.parseNamed ((other.text? "type").getD "") (other.get? "config")) := by
    rw [← h.type, ho, hp, Variant.parseNamed, Variant.parseNamed]
    cases hb : Backend.ofName? ((row.text? "type").getD "") with
    | none => trivial
    | some b =>
      refine Outcomes.map (Variant.parse_alike (Backend.refusal?_readMembers ?_ ?_))
        fun _ _ _ => trivial
      · intro key hkey
        exact (hmember b hb key).resolve_right fun hsecret => hkey hsecret.1
      · intro key _
        rcases hmember b hb key with heq | ⟨-, htext, htext'⟩
        · exact congrArg (fun c => (Backend.secretField c).refusal?) heq
        · exact htext.refusal?_secretField.trans htext'.refusal?_secretField.symm
  exact loadsAlike_of_outcomes (hparse.bind (S := fun _ _ => True) fun _ _ _ => trivial)

end Rows

namespace Service

open Operation

variable {env : Environment} {t u : Tables}

theorem loadOption_alike {found other : Option Row} (h : Option.Rel Row.LoadsAlike found other) :
    Outcomes (Option.Rel fun s s' => ∃ a b, found = some a ∧ other = some b ∧
        Storage.ofRow a = .ok s ∧ Storage.ofRow b = .ok s')
      (loadOption found) (loadOption other) := by
  cases h with
  | none => exact Option.Rel.none
  | some hload => exact hload.outcomes.map fun s s' hss => .some ⟨_, _, rfl, rfl, hss⟩

/-- What is found is what there is in either table. -/
theorem findStorage_agrees (id : Cell) :
    (request (.findStorage id)).Agrees env t u (request (.findStorage id))
      fun a b => a = t.find? id ∧ b = u.find? id := by
  refine agrees_request fun w hw => ⟨_, _, rfl, rfl, ?_⟩
  rw [hw]
  exact ⟨rfl, rfl⟩

/-- **What is read alike is found alike**: the storages of the rows, or the same failure. -/
theorem get_agrees {id : Cell} (h : Option.Rel Row.LoadsAlike (t.find? id) (u.find? id)) :
    (get id).Agrees env t u (get id) fun s s' => ∃ row other, t.find? id = some row ∧
      u.find? id = some other ∧ Storage.ofRow row = .ok s ∧ Storage.ofRow other = .ok s' := by
  refine Agrees.bind (R := Option.Rel fun s s' => ∃ row other, t.find? id = some row ∧
    u.find? id = some other ∧ Storage.ofRow row = .ok s ∧ Storage.ofRow other = .ok s') ?_ ?_
  · refine Agrees.bind (findStorage_agrees id) ?_
    rintro _ _ ⟨rfl, rfl⟩
    exact agrees_lift (loadOption_alike h)
  · rintro _ _ (⟨hss⟩ | _)
    · exact agrees_pure hss
    · refine Agrees.bind (agrees_told id) ?_
      rintro text _ rfl
      exact agrees_fail _

end Service

end Depository
