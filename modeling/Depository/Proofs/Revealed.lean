import Depository.Proofs.Sealed

/-!
# Variants with their secrets in clear

Before a backend is tested the secrets of a variant are decrypted.  What comes of it depends on what
is not secret and on what each secret is revealed as, and on nothing else (`Variant.reveal_congr`).
An encrypted secret is revealed as the text that was encrypted, so what is stored of a variant is
revealed as the variant itself is (`Variant.Protects.reveal`): a secret that was submitted in clear
is not changed by the detour, and of one that was stored already nothing is encrypted again.
-/

namespace Depository

namespace Secret

variable {C β : Type} {key : String} {owner : Cell} {fields : List (Secret C)} {c d : C}

/-- What does not depend on secrets is not changed. -/
theorem revealAll_of_ignores {p : C → β} (h : Ignores fields p)
    (hc : revealAll key owner fields c = .ok d) : p d = p c := by
  induction fields generalizing c with
  | nil => rw [Except.ok.inj hc]
  | cons f fields ih =>
    rw [revealAll] at hc
    cases hf : Field.reveal (.ofText key) owner (f.get c) with
    | error fault =>
      rw [hf] at hc
      cases hc
    | ok text =>
      rw [hf] at hc
      rw [ih h.tail hc]
      exact h f (List.mem_cons_self ..) _ _

/-- Every secret is revealed. -/
theorem get_revealAll (h : Independent fields) (hc : revealAll key owner fields c = .ok d) :
    ∀ f ∈ fields, Field.reveal (.ofText key) owner (f.get c) = .ok (f.get d) := by
  induction fields generalizing c with
  | nil => simp
  | cons g fields ih =>
    intro f hf
    rw [revealAll] at hc
    cases hg : Field.reveal (.ofText key) owner (g.get c) with
    | error fault =>
      rw [hg] at hc
      cases hc
    | ok text =>
      rw [hg] at hc
      -- the first secret is revealed in the first step, and the others are as they were
      rcases List.mem_cons.1 hf with rfl | hf
      · rw [revealAll_of_ignores h.ignores_head hc, h.get_set f (List.mem_cons_self ..)]
        exact hg
      · have hrest := ih h.tail hc f hf
        rwa [((List.pairwise_cons.1 h.apart).1 f hf text c).1] at hrest

/-- Secrets are revealed together if each of them is revealed. -/
theorem exists_revealAll (h : Independent fields)
    (hs : ∀ f ∈ fields, ∃ text, Field.reveal (.ofText key) owner (f.get c) = .ok text) :
    ∃ d, revealAll key owner fields c = .ok d := by
  induction fields generalizing c with
  | nil => exact ⟨c, rfl⟩
  | cons f fields ih =>
    obtain ⟨text, htext⟩ := hs f (List.mem_cons_self ..)
    rw [revealAll, htext]
    refine ih h.tail fun g hg => ?_
    rw [((List.pairwise_cons.1 h.apart).1 g hg text c).1]
    exact hs g (List.mem_cons_of_mem _ hg)

/-- Where secrets are revealed alike, the first fault is the same. -/
theorem revealAll_eq_error {fault : Field.DecryptionFault} (h : Independent fields)
    (hs : ∀ f ∈ fields, Field.reveal (.ofText key) owner (f.get c) =
      Field.reveal (.ofText key) owner (f.get d))
    (hc : revealAll key owner fields c = .error fault) :
    revealAll key owner fields d = .error fault := by
  induction fields generalizing c d with
  | nil => cases hc
  | cons f fields ih =>
    rw [revealAll] at hc ⊢
    rw [← hs f (List.mem_cons_self ..)]
    cases hf : Field.reveal (.ofText key) owner (f.get c) with
    | error e =>
      rw [hf] at hc
      exact hc
    | ok text =>
      rw [hf] at hc
      refine ih h.tail (fun g hg => ?_) hc
      rw [((List.pairwise_cons.1 h.apart).1 g hg text c).1,
        ((List.pairwise_cons.1 h.apart).1 g hg text d).1]
      exact hs g (List.mem_cons_of_mem _ hg)

/-- **What is stored of a secret is revealed as the secret is.** -/
theorem Protects.reveal {id : String} {nonces : Nat → Bytes} {text stored : String}
    (hn : ∀ n, (nonces n).length = Field.nonceLength) (hid : id ≠ "")
    (h : Protects key (.ofText id) nonces text stored) :
    Field.reveal (.ofText key) (.ofText id) stored =
      Field.reveal (.ofText key) (.ofText id) text := by
  unfold Protects at h
  split at h
  · rw [h]
  · rename_i hplain
    obtain ⟨hne, hunmarked⟩ := not_or.1 hplain
    obtain ⟨n, hencrypt⟩ := h
    have hmarked : Field.isMarked stored = true := Field.isMarked_of_encryptFor hencrypt
    have howned : (Cell.ofText id).isTruthy = true := Cell.isTruthy_ofText.2 hid
    rw [Field.encryptFor_ofText] at hencrypt
    simp only [Field.reveal, hmarked, hunmarked, howned, Bool.not_true, Bool.not_false,
      Bool.false_eq_true, if_true, if_false, Field.decryptFor_ofText,
      Field.decrypt_encrypt (hn n) hencrypt]

end Secret

namespace Variant

variable {key : String} {owner : Cell}

/-- **What a variant is revealed as** depends on what is not secret and on what each secret is
revealed as. -/
theorem reveal_congr {b : Backend} {c d : b.Config} (hide : b.hide c = b.hide d)
    (hs : ∀ f ∈ b.secrets, Field.reveal (.ofText key) owner (f.get c) =
      Field.reveal (.ofText key) owner (f.get d)) :
    reveal key owner ⟨b, c⟩ = reveal key owner ⟨b, d⟩ := by
  rw [reveal, reveal]
  cases hc : Secret.revealAll key owner b.secrets c with
  | error fault =>
    rw [Secret.revealAll_eq_error b.secrets_independent hs hc]
  | ok plain =>
    cases hd : Secret.revealAll key owner b.secrets d with
    | error fault =>
      have hsame := Secret.revealAll_eq_error b.secrets_independent
        (fun f hf => (hs f hf).symm) hd
      rw [hc] at hsame
      cases hsame
    | ok plain' =>
      have heq : plain = plain' := by
        refine Backend.eq_of_hide ?_ fun f hf => ?_
        · rw [Secret.revealAll_of_ignores b.ignores_hide hc,
            Secret.revealAll_of_ignores b.ignores_hide hd, hide]
        · have hf' := hs f hf
          rw [Secret.get_revealAll b.secrets_independent hc f hf,
            Secret.get_revealAll b.secrets_independent hd f hf] at hf'
          exact Except.ok.inj hf'
      rw [heq]

/-- **What is stored of a variant is revealed as the variant is.** -/
theorem Protects.reveal {id : String} {nonces : Nat → Bytes} {v stored : Variant}
    (hn : ∀ n, (nonces n).length = Field.nonceLength) (hid : id ≠ "")
    (h : Protects key (.ofText id) nonces v stored) :
    stored.reveal key (.ofText id) = v.reveal key (.ofText id) := by
  obtain ⟨b, c⟩ := v
  obtain ⟨d, rfl, hide, hsecrets⟩ := h.config
  exact reveal_congr hide.symm fun f hf => (hsecrets f hf).reveal hn hid

/-- **What seals a variant is revealed as the variant.** -/
theorem Seals.reveal {id : String} {stored clear : Variant} (hid : id ≠ "")
    (h : Seals key id stored clear) : stored.reveal key (.ofText id) = .ok clear := by
  obtain ⟨b, d, c, rfl, rfl, hide, hsecrets⟩ := h
  have howned : (Cell.ofText id).isTruthy = true := Cell.isTruthy_ofText.2 hid
  have hfield : ∀ f ∈ b.secrets,
      Field.reveal (.ofText key) (.ofText id) (f.get d) = .ok (f.get c) := by
    intro f hf
    have hsealed := hsecrets f hf
    by_cases hempty : f.get c = ""
    · rw [Field.Seals, if_pos hempty] at hsealed
      rw [hsealed, hempty]
      rfl
    · rw [Field.Seals, if_neg hempty] at hsealed
      simp [Field.reveal, hsealed.1, hsealed.2, howned, Field.decryptFor_ofText]
  obtain ⟨plain, hplain⟩ := Secret.exists_revealAll b.secrets_independent
    fun f hf => ⟨_, hfield f hf⟩
  have hsame : plain = c := by
    refine Backend.eq_of_hide ?_ fun f hf => ?_
    · rw [Secret.revealAll_of_ignores b.ignores_hide hplain, hide]
    · have hget := Secret.get_revealAll b.secrets_independent hplain f hf
      rw [hfield f hf] at hget
      exact (Except.ok.inj hget).symm
  rw [Variant.reveal, hplain, hsame]
  rfl

end Variant

end Depository
