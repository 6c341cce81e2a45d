import Depository.Proofs.Cipher.Field
import Depository.Proofs.Variant

/-!
# Sealed variants

A stored variant seals a variant in clear if they are the same but for their secrets, and of each
secret it keeps nothing where there is none, and else a marked text that the record opens to the
secret.  Encryption seals a submitted variant (`Variant.Seals.of_protects`).  It seals an update
too, although there it meets secrets that are sealed already: those it leaves as they are
(`Variant.Seals.of_merge`).
-/

namespace Depository

namespace Field

/-- The text is stored for the record `entity` in such a way that the record has it back. -/
def Seals (secret entity stored text : String) : Prop :=
  if text = "" then stored = ""
  else isMarked stored = true ∧ decrypt secret entity stored = .ok text

variable {secret entity stored text : String}

theorem seals_empty : Seals secret entity "" "" := by simp [Seals]

theorem seals_of_encrypt {nonce : Bytes} (hn : nonce.length = nonceLength) (ht : text ≠ "")
    (h : encrypt secret entity nonce text = .ok stored) : Seals secret entity stored text := by
  rw [Seals, if_neg ht]
  exact ⟨isMarked_of_encrypt h, decrypt_encrypt hn h⟩

/-- What is sealed is empty or marked. -/
theorem Seals.empty_or_marked (h : Seals secret entity stored text) :
    stored = "" ∨ isMarked stored = true := by
  by_cases ht : text = ""
  · rw [Seals, if_pos ht] at h
    exact .inl h
  · rw [Seals, if_neg ht] at h
    exact .inr h.1

end Field

namespace Variant

/-- The variant `stored` seals the variant `clear` for the record `entity`. -/
def Seals (key entity : String) (stored clear : Variant) : Prop :=
  ∃ (b : Backend) (d c : b.Config), stored = ⟨b, d⟩ ∧ clear = ⟨b, c⟩ ∧ b.hide d = b.hide c ∧
    ∀ f ∈ b.secrets, Field.Seals key entity (f.get d) (f.get c)

/-- No secret of the variant is marked. -/
def IsPlain (v : Variant) : Prop :=
  ∀ f ∈ v.backend.secrets, Field.isMarked (f.get v.config) = false

variable {key entity : String} {nonces : Nat → Bytes} {stored clear submitted : Variant}

/-- One secret is sealed once it is encrypted, if it was sealed before or is plain. -/
theorem seals_of_protects {text mid stored : String} (hn : ∀ n, (nonces n).length =
      Field.nonceLength) (hp : Secret.Protects key (.ofText entity) nonces mid stored)
    (h : Field.Seals key entity mid text ∨ mid = text ∧ Field.isMarked text = false) :
    Field.Seals key entity stored text := by
  unfold Secret.Protects at hp
  rcases h with h | ⟨rfl, hplain⟩
  · -- a sealed secret is left as it is
    rw [if_pos h.empty_or_marked] at hp
    rwa [hp]
  · by_cases ht : mid = ""
    · subst ht
      rw [if_pos (.inl rfl)] at hp
      rw [hp]
      exact Field.seals_empty
    · have hnot : ¬(mid = "" ∨ Field.isMarked mid = true) := by simp [ht, hplain]
      rw [if_neg hnot] at hp
      obtain ⟨n, hencrypt⟩ := hp
      exact Field.seals_of_encrypt (hn n) ht hencrypt

/-- **Encryption seals a submitted variant.** -/
theorem Seals.of_protects (hn : ∀ n, (nonces n).length = Field.nonceLength)
    (hplain : submitted.IsPlain)
    (hp : Protects key (.ofText entity) nonces submitted stored) :
    Seals key entity stored submitted := by
  obtain ⟨b, c⟩ := submitted
  obtain ⟨d, rfl, hide, hget⟩ := hp.config
  refine ⟨b, d, c, rfl, rfl, hide.symm, fun f hf => ?_⟩
  exact seals_of_protects hn (hget f hf) (.inr ⟨rfl, hplain f hf⟩)

/-- **Encryption seals an update**: of a sealed variant that an update was merged into, it seals
what the update makes of the variant in clear. -/
theorem Seals.of_merge (hn : ∀ n, (nonces n).length = Field.nonceLength)
    (h : Seals key entity stored clear) (hplain : submitted.IsPlain) {after : Variant}
    (hp : Protects key (.ofText entity) nonces (stored.merge submitted).variant after) :
    Seals key entity after (clear.merge submitted).variant := by
  obtain ⟨b, d, c, rfl, rfl, hide, hsecrets⟩ := h
  obtain ⟨b', i⟩ := submitted
  by_cases hb : b = b'
  · subst hb
    rw [merge_same] at hp ⊢
    obtain ⟨e, rfl, hide', hget⟩ := hp.config
    refine ⟨b, e, _, rfl, rfl, ?_, fun f hf => ?_⟩
    · rw [← hide', Backend.hide_keepAll, Backend.hide_keepAll]
    · refine seals_of_protects hn (hget f hf) ?_
      rw [Secret.get_keepAll b.secrets_independent d i hf,
        Secret.get_keepAll b.secrets_independent c i hf]
      -- a secret that is submitted empty is kept sealed, and kept in clear; another one is plain
      by_cases hempty : f.get i = ""
      · rw [if_pos hempty, if_pos hempty]
        exact .inl (hsecrets f hf)
      · rw [if_neg hempty, if_neg hempty]
        exact .inr ⟨rfl, hplain f hf⟩
  · rw [merge_other hb] at hp
    rw [merge_other hb]
    exact .of_protects hn hplain hp

end Variant

end Depository
