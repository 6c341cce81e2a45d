import Depository.Backend.Secret
import Depository.Proofs.Backend.NormalForm
import Depository.Proofs.Cipher.Field

/-!
# Secrets of configurations

The secret fields of a backend are set and got independently of each other and of all else
(`Backend.secrets_independent`, `Backend.hideAll_set`).  From that alone it follows what an update
keeps (`Secret.get_keepAll`), what is encrypted (`Secret.get_protectAll`), and that both leave
everything else as it was (`Secret.keepAll_of_ignores`, `Secret.protectAll_of_ignores`).

* `Backend.secretKeys` — the names of the members that are secret, as the layout of configurations
  has them;
* `Secret.Independent` — secret fields that do not touch each other;
* `Secret.Ignores` — what does not depend on secrets;
* `Secret.Protects` — what becomes of a secret that is stored.

Two configurations agree in everything but their secrets if they are equal once these are hidden.
-/

namespace Depository

namespace Secret

variable {C β : Type}

/-- The fields are got as they were set, and setting one leaves the others. -/
structure Independent (fields : List (Secret C)) : Prop where
  get_set : ∀ f ∈ fields, ∀ v c, f.get (f.set v c) = v
  apart : fields.Pairwise fun f g =>
    ∀ v c, g.get (f.set v c) = g.get c ∧ f.get (g.set v c) = f.get c

theorem Independent.tail {f : Secret C} {fields : List (Secret C)}
    (h : Independent (f :: fields)) : Independent fields :=
  ⟨fun g hg => h.get_set g (List.mem_cons_of_mem _ hg), (List.pairwise_cons.1 h.apart).2⟩

/-- What `p` tells of a configuration does not depend on the fields. -/
def Ignores (fields : List (Secret C)) (p : C → β) : Prop :=
  ∀ f ∈ fields, ∀ v c, p (f.set v c) = p c

theorem Ignores.tail {f : Secret C} {fields : List (Secret C)} {p : C → β}
    (h : Ignores (f :: fields) p) : Ignores fields p :=
  fun g hg => h g (List.mem_cons_of_mem _ hg)

/-- The first field is nothing that the others touch. -/
theorem Independent.ignores_head {f : Secret C} {fields : List (Secret C)}
    (h : Independent (f :: fields)) : Ignores fields f.get :=
  fun g hg v c => ((List.pairwise_cons.1 h.apart).1 g hg v c).2

/-! ### Updates -/

/-- One step of an update: the present secret in place of an empty one. -/
def keepOne (current incoming : C) (c : C) (f : Secret C) : C :=
  if f.get incoming = "" then f.set (f.get current) c else c

theorem foldl_keepOne_of_ignores {fields : List (Secret C)} {p : C → β} (h : Ignores fields p)
    (current incoming c : C) : p (fields.foldl (keepOne current incoming) c) = p c := by
  induction fields generalizing c with
  | nil => rfl
  | cons f fields ih =>
    rw [List.foldl_cons, ih h.tail, keepOne]
    split
    · exact h f (List.mem_cons_self ..) _ _
    · rfl

/-- An update leaves whatever does not depend on secrets as it is submitted. -/
theorem keepAll_of_ignores {fields : List (Secret C)} {p : C → β} (h : Ignores fields p)
    (current incoming : C) : p (keepAll fields current incoming) = p incoming :=
  foldl_keepOne_of_ignores h current incoming incoming

theorem get_foldl_keepOne {fields : List (Secret C)} (h : Independent fields)
    {current incoming c : C} (hc : ∀ f ∈ fields, f.get c = f.get incoming) :
    ∀ f ∈ fields, f.get (fields.foldl (keepOne current incoming) c) =
      if f.get incoming = "" then f.get current else f.get incoming := by
  induction fields generalizing c with
  | nil => simp
  | cons g fields ih =>
    have hg := hc g (List.mem_cons_self ..)
    intro f hf
    rw [List.foldl_cons]
    -- the first field is decided by the first step, which the others do not undo
    rcases List.mem_cons.1 hf with rfl | hf
    · rw [foldl_keepOne_of_ignores h.ignores_head, keepOne]
      split
      · exact h.get_set f (List.mem_cons_self ..) _ _
      · exact hg
    · refine ih h.tail (fun f hf => ?_) f hf
      rw [keepOne]
      split
      · rw [((List.pairwise_cons.1 h.apart).1 f hf _ _).1]
        exact hc f (List.mem_cons_of_mem _ hf)
      · exact hc f (List.mem_cons_of_mem _ hf)

/-- **An update overwrites a secret only by one that is not empty.** -/
theorem get_keepAll {fields : List (Secret C)} (h : Independent fields) (current incoming : C)
    {f : Secret C} (hf : f ∈ fields) :
    f.get (keepAll fields current incoming) =
      if f.get incoming = "" then f.get current else f.get incoming :=
  get_foldl_keepOne h (fun _ _ => rfl) f hf

/-! ### Encryption -/

/-- The stored text of a secret: an empty one and one that is marked are stored as they are, and
any other one is encrypted with one of the nonces. -/
def Protects (key : String) (owner : Cell) (nonces : Nat → Bytes) (text stored : String) : Prop :=
  if text = "" ∨ Field.isMarked text = true then stored = text
  else ∃ n, Field.encryptFor (.ofText key) (nonces n) owner (.ofText text) = .ok stored

section Protects

variable {key : String} {owner : Cell} {nonces : Nat → Bytes} {text stored : String}

/-- What is stored of a secret is nothing, or it is marked. -/
theorem Protects.isMarked (h : Protects key owner nonces text stored) :
    stored = "" ∨ Field.isMarked stored = true := by
  unfold Protects at h
  split at h
  · rename_i ht
    rwa [h]
  · obtain ⟨n, hn⟩ := h
    exact .inr (Field.isMarked_of_encryptFor hn)

/-- Something is stored of a secret that is not empty. -/
theorem Protects.ne_empty (h : Protects key owner nonces text stored) (ht : text ≠ "") :
    stored ≠ "" := by
  unfold Protects at h
  split at h
  · rwa [h]
  · obtain ⟨n, hn⟩ := h
    exact Field.ne_empty_of_isMarked (Field.isMarked_of_encryptFor hn)

end Protects

theorem isPlain_iff {f : Secret C} {c : C} :
    f.isPlain c = true ↔ ¬(f.get c = "" ∨ Field.isMarked (f.get c) = true) := by
  simp [isPlain]

variable {key : String} {owner : Cell} {nonces : Nat → Bytes}

/-- Encryption leaves whatever does not depend on secrets. -/
theorem protectAll_of_ignores {fields : List (Secret C)} {p : C → β} (h : Ignores fields p)
    (used : Nat) (c : C) : p (protectAll key owner nonces used fields c).config = p c := by
  induction fields generalizing used c with
  | nil => rfl
  | cons f fields ih =>
    rw [protectAll]
    split
    · split
      · rw [ih h.tail]
        exact h f (List.mem_cons_self ..) _ _
      · rfl
    · exact ih h.tail used c

/-- **Every secret is encrypted** if no encryption failed. -/
theorem get_protectAll {fields : List (Secret C)} (h : Independent fields) {used : Nat} {c : C}
    (hok : (protectAll key owner nonces used fields c).fault = none) :
    ∀ f ∈ fields, Protects key owner nonces (f.get c)
      (f.get (protectAll key owner nonces used fields c).config) := by
  induction fields generalizing used c with
  | nil => simp
  | cons g fields ih =>
    intro f hf
    rw [protectAll] at hok ⊢
    by_cases hg : g.isPlain c = true
    · simp only [hg, ↓reduceIte] at hok ⊢
      cases he : Field.encryptFor (.ofText key) (nonces used) owner (.ofText (g.get c)) with
      | error e => simp [he] at hok
      | ok v =>
        -- the first field is stored, and the encryption of the others leaves it alone
        simp only [he] at hok ⊢
        rcases List.mem_cons.1 hf with rfl | hf
        · rw [protectAll_of_ignores h.ignores_head, h.get_set f (List.mem_cons_self ..), Protects,
            if_neg (isPlain_iff.1 hg)]
          exact ⟨used, he⟩
        · have hset := ((List.pairwise_cons.1 h.apart).1 f hf v c).1
          have hrest := ih h.tail hok f hf
          rwa [hset] at hrest
    · simp only [hg, Bool.false_eq_true, ↓reduceIte] at hok ⊢
      rcases List.mem_cons.1 hf with rfl | hf
      · rw [protectAll_of_ignores h.ignores_head, Protects,
          if_pos (Classical.not_not.1 fun hn => hg (isPlain_iff.2 hn))]
      · exact ih h.tail hok f hf

/-- Where every secret is nothing or marked there is nothing to encrypt. -/
theorem protectAll_of_stored {fields : List (Secret C)} {c : C}
    (h : ∀ f ∈ fields, f.get c = "" ∨ Field.isMarked (f.get c) = true) (used : Nat) :
    protectAll key owner nonces used fields c = ⟨c, used, none⟩ := by
  induction fields with
  | nil => rfl
  | cons f fields ih =>
    have hnot : f.isPlain c ≠ true := fun hp => isPlain_iff.1 hp (h f (List.mem_cons_self ..))
    rw [protectAll, if_neg hnot]
    exact ih fun g hg => h g (List.mem_cons_of_mem _ hg)

end Secret

end Depository
