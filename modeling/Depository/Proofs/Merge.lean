import Depository.Proofs.Variant

/-!
# The laws of updates

An update of another backend takes the place of a variant, and nothing of the variant is left.  An
update of the same backend overwrites every member of the configuration with what is submitted, an
empty text, a switch that is off and a default port included; only a secret that is submitted empty
is kept.

So an update is decided member by member.  Where the member is no secret the last update counts, and
where it is one the last update that is not empty, whichever of two updates are taken together
first.  That is all that the laws of whole configurations need, since a configuration is determined
by its secrets and by what is left when they are hidden (`Backend.eq_of_hide`).

* `Variant.get?_merge`, `Variant.get?_merge_secret` — the members of an updated variant;
* `Backend.keepAll_again`, `Backend.keepAll_assoc` — an update that is made twice, and updates one
  after another;
* `Variant.merge_laws` — **the laws of updates.**
-/

namespace Depository

namespace Backend

variable (b : Backend)

/-- An update that was made leaves nothing to be changed when it is made again. -/
theorem keepAll_again (c d : b.Config) :
    Secret.keepAll b.secrets (Secret.keepAll b.secrets c d) d = Secret.keepAll b.secrets c d := by
  refine eq_of_hide ?_ fun f hf => ?_
  · rw [hide_keepAll, hide_keepAll]
  · simp only [Secret.get_keepAll b.secrets_independent _ _ hf]
    -- a secret that is submitted is taken both times, and one that is not is kept both times
    split <;> rfl

/-- One update after another is one update, by the second one merged into the first one. -/
theorem keepAll_assoc (c d e : b.Config) :
    Secret.keepAll b.secrets (Secret.keepAll b.secrets c d) e =
      Secret.keepAll b.secrets c (Secret.keepAll b.secrets d e) := by
  refine eq_of_hide ?_ fun f hf => ?_
  · rw [hide_keepAll, hide_keepAll, hide_keepAll]
  · simp only [Secret.get_keepAll b.secrets_independent _ _ hf]
    by_cases he : f.get e = ""
    · rw [if_pos he, if_pos he]
    · rw [if_neg he, if_neg he, if_neg he]

end Backend

namespace Variant

variable {a b c : Variant}

/-- Every member that is no secret is as it was submitted. -/
theorem get?_merge (h : a.backend = b.backend) {key : String}
    (hkey : key ∉ b.backend.secretKeys) :
    (a.merge b).variant.payload.get? key = b.payload.get? key := by
  obtain ⟨backend, x⟩ := a
  obtain ⟨backend', y⟩ := b
  obtain rfl : backend = backend' := h
  rw [merge_same]
  have hmember : ∀ z : backend.Config, Json.get? key (payload ⟨backend, z⟩) =
      Members.get? key (backend.configMembers (backend.hide z)) :=
    fun z => (Backend.get?_hide hkey z).symm
  rw [hmember, hmember, Backend.hide_keepAll]

/-- Every secret is as it was submitted, unless that is empty: then it is kept. -/
theorem get?_merge_secret (h : a.backend = b.backend) {key : String}
    (hkey : key ∈ b.backend.secretKeys) :
    ∃ present submitted : String, a.payload.get? key = some (.string present) ∧
      b.payload.get? key = some (.string submitted) ∧
      (a.merge b).variant.payload.get? key =
        some (.string (if submitted = "" then present else submitted)) := by
  obtain ⟨backend, x⟩ := a
  obtain ⟨backend', y⟩ := b
  obtain rfl : backend = backend' := h
  rw [← Backend.map_key_secrets] at hkey
  obtain ⟨f, hf, rfl⟩ := List.mem_map.1 hkey
  refine ⟨f.get x, f.get y, Backend.get?_secret hf x, Backend.get?_secret hf y, ?_⟩
  rw [merge_same, ← Secret.get_keepAll backend.secrets_independent x y hf]
  exact Backend.get?_secret hf _

theorem merge_again (h : a.backend = b.backend) : (a.merge b).variant.merge b = a.merge b := by
  obtain ⟨backend, x⟩ := a
  obtain ⟨backend', y⟩ := b
  obtain rfl : backend = backend' := h
  rw [merge_same, merge_same, Backend.keepAll_again]

theorem merge_merge (hb : a.backend = b.backend) (hc : b.backend = c.backend) :
    (a.merge b).variant.merge c = a.merge (b.merge c).variant := by
  obtain ⟨backend, x⟩ := a
  obtain ⟨backend', y⟩ := b
  obtain ⟨backend'', z⟩ := c
  obtain rfl : backend = backend' := hb
  obtain rfl : backend = backend'' := hc
  rw [merge_same, merge_same, merge_same, merge_same, Backend.keepAll_assoc]

/-- **The laws of updates.**  An update `b` of another backend takes the place of the variant `a`,
and is marked as a replacement.  One of the same backend is not; then each member is the submitted
one, except that a secret that is submitted empty is the present one.  So the variant with hidden
secrets is no change of it, to make an update twice is to make it once, and to make two updates of
one backend one after another is to make the second one merged into the first one. -/
theorem merge_laws (a b c : Variant) :
    (a.backend ≠ b.backend → a.merge b = ⟨b, true⟩) ∧
    (a.backend = b.backend →
      (a.merge b).replaced = false ∧ (a.merge b).variant.backend = b.backend ∧
      (∀ key ∉ b.backend.secretKeys,
        (a.merge b).variant.payload.get? key = b.payload.get? key) ∧
      ∀ key ∈ b.backend.secretKeys, ∃ present submitted : String,
        a.payload.get? key = some (.string present) ∧
        b.payload.get? key = some (.string submitted) ∧
        (a.merge b).variant.payload.get? key =
          some (.string (if submitted = "" then present else submitted))) ∧
    a.merge a.hide = ⟨a, false⟩ ∧
    (a.backend = b.backend → (a.merge b).variant.merge b = a.merge b) ∧
    (a.backend = b.backend → b.backend = c.backend →
      (a.merge b).variant.merge c = a.merge (b.merge c).variant) := by
  refine ⟨merge_other, fun h => ⟨?_, backend_merge a b, ?_, ?_⟩, merge_hide a, merge_again,
    merge_merge⟩
  · rw [merge, dif_pos h]
  · exact fun key => get?_merge h
  · exact fun key => get?_merge_secret h

/-- An update of a storage on an SFTP server keeps the password, which it leaves empty, and
overwrites the key, the port and the switch. -/
theorem merge_laws_sftp :
    let present : Variant := ⟨.sftp, ⟨"host", 2222, "user", "secret", "old key", true, "", "/b"⟩⟩
    let update : Variant := ⟨.sftp, ⟨"host", 22, "user", "", "new key", false, "", ""⟩⟩
    let share : Variant := ⟨.nas, ⟨"host", 445, "backups", "user", "", false, "", ""⟩⟩
    let merged := (present.merge update).variant
    merged.payload.get? "password" = some (.string "secret") ∧
      merged.payload.get? "privateKey" = some (.string "new key") ∧
      merged.payload.get? "port" = some (.number (.integer 22)) ∧
      merged.payload.get? "skipHostKeyVerify" = some (.bool false) ∧
      merged.merge update = present.merge update ∧
      merged.merge present.hide = present.merge (update.merge present.hide).variant ∧
      present.merge share = ⟨share, true⟩ := by
  intro present update share merged
  obtain ⟨-, hsame, -, hagain, hthen⟩ := merge_laws present update present.hide
  obtain ⟨hother, -⟩ := merge_laws present share share
  obtain ⟨-, -, hpublic, hsecret⟩ := hsame rfl
  obtain ⟨_, _, hpassword, hempty, hkept⟩ := hsecret "password" (by decide)
  obtain ⟨_, _, -, hkey, hnew⟩ := hsecret "privateKey" (by decide)
  obtain rfl := Json.string.inj (Option.some.inj hpassword)
  obtain rfl := Json.string.inj (Option.some.inj hempty)
  obtain rfl := Json.string.inj (Option.some.inj hkey)
  exact ⟨hkept, hnew, hpublic "port" (by decide), hpublic "skipHostKeyVerify" (by decide),
    hagain rfl, hthen rfl rfl, hother (by decide)⟩

end Variant

end Depository
