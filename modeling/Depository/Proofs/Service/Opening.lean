import Depository.Proofs.Service.Rehearsal

/-!
# Which saves leave secrets that can be decrypted

What is saved may be a text in clear or one that is stored already, and all that tells the one from
the other is whether it begins with `enc:`.  A text in clear is encrypted, and decrypts afterwards.
A marked one is stored just as it was submitted, so it decrypts only if it did before.  In tables
where every secret decrypts under the id of its row, a save that succeeds therefore keeps this up
just where each marked secret that was submitted decrypts under the id it is saved under
(`Service.save_opens_iff`); where none is marked there is nothing to be kept up.

Nothing checks that, and so a password that merely begins like a stored one is saved, and nobody has
it back (`Service.save_stores_closed`).

* `Variant.Opens`, `Tables.Opens` — every secret that is not empty decrypts under the id of its
  record;
* `Variant.BearsOpen` — every marked secret does;
* `Service.Deposited.opens_iff` — what is stored of a submission decrypts just where its marked
  secrets do.
-/

namespace Depository

/-! ### Secrets that decrypt -/

/-- The owner decrypts the text. -/
def Field.OpensFor (key : String) (owner : Cell) (value : String) : Prop :=
  ∃ text, decryptFor (.ofText key) owner value = .ok text

/-- The owner decrypts every secret of the variant that is not empty. -/
def Variant.Opens (key : String) (owner : Cell) (v : Variant) : Prop :=
  ∀ f ∈ v.backend.secrets, f.get v.config ≠ "" → Field.OpensFor key owner (f.get v.config)

/-- The owner decrypts every secret of the variant that is marked. -/
def Variant.BearsOpen (key : String) (owner : Cell) (v : Variant) : Prop :=
  ∀ f ∈ v.backend.secrets, Field.isMarked (f.get v.config) = true →
    Field.OpensFor key owner (f.get v.config)

/-- The storage decrypts every secret of its own that is not empty. -/
def Storage.Opens (key : String) (s : Storage) : Prop := ∀ v ∈ s.variant, v.Opens key s.id

/-- Every row that is read decrypts every secret of its own that is not empty. -/
def Tables.Opens (key : String) (t : Tables) : Prop :=
  ∀ row ∈ t.storages, ∀ s, Storage.ofRow row = .ok s → s.Opens key

variable {key id : String} {nonces : Nat → Bytes}

/-- What is stored of one secret decrypts just where it does by itself, if it is marked. -/
theorem Secret.Protects.opens_iff {text stored : String}
    (hn : ∀ n, (nonces n).length = Field.nonceLength)
    (h : Protects key (.ofText id) nonces text stored) :
    (stored ≠ "" → Field.OpensFor key (.ofText id) stored) ↔
      (Field.isMarked text = true → Field.OpensFor key (.ofText id) text) := by
  unfold Protects at h
  by_cases hkept : text = "" ∨ Field.isMarked text = true
  · -- it is stored as it is
    rw [if_pos hkept] at h
    subst h
    constructor
    · exact fun hopens hmarked => hopens (Field.ne_empty_of_isMarked hmarked)
    · exact fun hopens hne => hopens (hkept.resolve_left hne)
  · rw [if_neg hkept] at h
    obtain ⟨n, hencrypt⟩ := h
    obtain ⟨-, hplain⟩ := not_or.1 hkept
    rw [Field.encryptFor_ofText] at hencrypt
    have hopens : Field.OpensFor key (.ofText id) stored := by
      refine ⟨text, ?_⟩
      rw [Field.decryptFor_ofText]
      exact Field.decrypt_encrypt (hn n) hencrypt
    exact ⟨fun _ hmarked => absurd hmarked hplain, fun _ _ => hopens⟩

namespace Variant

/-- **What is stored of a variant decrypts just where its marked secrets do.** -/
theorem Protects.opens_iff {v stored : Variant}
    (hn : ∀ n, (nonces n).length = Field.nonceLength)
    (h : Protects key (.ofText id) nonces v stored) :
    stored.Opens key (.ofText id) ↔ v.BearsOpen key (.ofText id) := by
  obtain ⟨b, c⟩ := v
  obtain ⟨d, rfl, -, hsecrets⟩ := h.config
  exact forall₂_congr fun f hf => (hsecrets f hf).opens_iff hn

/-- The marked secrets of an update of a variant that decrypts do so just where those do that were
submitted with it: the others are kept. -/
theorem bearsOpen_merge {current : Variant} (h : current.Opens key (.ofText id))
    (submitted : Variant) : (current.merge submitted).variant.BearsOpen key (.ofText id) ↔
      submitted.BearsOpen key (.ofText id) := by
  obtain ⟨b, c⟩ := current
  obtain ⟨b', i⟩ := submitted
  by_cases hb : b = b'
  · subst hb
    rw [merge_same]
    refine forall₂_congr fun f hf => ?_
    show (Field.isMarked (f.get (Secret.keepAll b.secrets c i)) = true →
      Field.OpensFor key (.ofText id) (f.get (Secret.keepAll b.secrets c i))) ↔ _
    rw [Secret.get_keepAll b.secrets_independent c i hf]
    by_cases hempty : f.get i = ""
    · -- the secret is kept, and decrypts already
      rw [if_pos hempty, hempty]
      refine iff_of_true (fun hmarked => h f hf (Field.ne_empty_of_isMarked hmarked)) ?_
      simp
    · rw [if_neg hempty]
  · rw [merge_other hb]

/-- Secrets are not trimmed. -/
theorem opens_trim {b : Backend} {c : b.Config} {owner : Cell} :
    Opens key owner ⟨b, b.trim c⟩ ↔ Opens key owner ⟨b, c⟩ := by
  refine forall₂_congr fun f hf => ?_
  show (f.get (b.trim c) ≠ "" → Field.OpensFor key owner (f.get (b.trim c))) ↔ _
  rw [Backend.get_trim hf]

end Variant

namespace Tables

variable {t after : Tables} {workspaceId : Cell} {v : Variant}

theorem opens_of_empty (h : t.storages = []) : t.Opens key := by
  intro row hrow
  rw [h] at hrow
  cases hrow

/-- What a row in open tables stores decrypts under the id of the row. -/
theorem Opens.of_stores (h : t.Opens key) (hs : t.Stores (.ofText id) workspaceId v) :
    v.Opens key (.ofText id) := by
  obtain ⟨row, s, hf, hread, -, hv⟩ := hs
  have hopens := h row (mem_of_find? hf) s hread v hv
  rwa [id_of_find? hf hread] at hopens

/-- Where every other row was there before, all depends on the row of the id. -/
theorem Opens.iff_of_others (h : t.Opens key) {row : Row} {s : Storage}
    (hothers : ∀ other ∈ after.storages, other ∈ t.storages ∨ after.find? (.ofText id) = some other)
    (hf : after.find? (.ofText id) = some row) (hread : Storage.ofRow row = .ok s) :
    after.Opens key ↔ s.Opens key := by
  refine ⟨fun hopens => hopens row (mem_of_find? hf) s hread, fun hopens other hother s' hs' => ?_⟩
  rcases hothers other hother with hold | hnew
  · exact h other hold s' hs'
  · obtain rfl := Option.some.inj (hf.symm.trans hnew)
    obtain rfl := Except.ok.inj (hread.symm.trans hs')
    exact hopens

end Tables

/-! ### Saving -/

/-- The id under which a submission is saved: its own, or a fresh one if it has none. -/
def Submission.idOr (fresh : String) (s : Submission) : String :=
  match s.id with
  | none | some "" => fresh
  | some id => id

namespace Submission

variable {s : Submission} {fresh : String}

theorem idOr_of_new (h : s.id = none ∨ s.id = some "") : s.idOr fresh = fresh := by
  rcases h with h | h <;> simp only [idOr, h]

theorem idOr_of_given {id : String} (h : s.id = some id) (hne : id ≠ "") : s.idOr fresh = id := by
  rw [idOr, h]
  split
  · rename_i hnone
    cases hnone
  · rename_i hempty
    exact absurd (Option.some.inj hempty) hne
  · rename_i id' _ hsome
    exact (Option.some.inj hsome).symm

end Submission

namespace Service

open Operation

variable {env : Environment} {t after : Tables} {s : Submission}

/-- The row of a storage that was put into open tables decrypts just where the marked secrets do
from which it was made, and on it alone it depends whether all rows do. -/
theorem Deposited.opens_iff {workspaceId : String} {v : Variant}
    (hn : ∀ n, (env.nonce n).length = Field.nonceLength)
    (ht : t.Opens env.settings.encryptionKey) (h : Deposited env id workspaceId v t after) :
    ∃ row stored, after.find? (.ofText id) = some row ∧ Storage.ofRow row = .ok stored ∧
      (stored.Opens env.settings.encryptionKey ↔
        v.BearsOpen env.settings.encryptionKey (.ofText id)) ∧
      (after.Opens env.settings.encryptionKey ↔ stored.Opens env.settings.encryptionKey) := by
  obtain ⟨⟨⟨b, d⟩, hprotected, row, stored, hf, hread, -, hvariant⟩, hothers, -⟩ := h
  refine ⟨row, stored, hf, hread, ?_, ht.iff_of_others hothers hf hread⟩
  rw [← hprotected.opens_iff hn, ← Variant.opens_trim, Storage.Opens, hvariant,
    Tables.id_of_find? hf hread]
  simp

/-- **Which saves leave secrets that can be decrypted.**  Take any tables in which every secret that
is not empty decrypts under the id of its row, any actor and any submission, with any texts for its
secrets.  If saving it succeeds, the stored row is found under its id and can be read, and all its
secrets that are not empty decrypt just where the marked ones that were submitted do so under this
id.  So it is with the secrets of the whole table. -/
theorem save_opens_iff (hn : ∀ n, (env.nonce n).length = Field.nonceLength) (cloudMode : Bool)
    (actor : Actor) (workspaceId : String) (s : Submission) {w : World} {view : View}
    (ht : w.tables.Opens env.settings.encryptionKey)
    (hsaved : ((save cloudMode actor (.ofText workspaceId) s.toInput).run env w).1 = .ok view) :
    let key := env.settings.encryptionKey
    let id := s.idOr (env.freshId w.ids)
    let after := ((save cloudMode actor (.ofText workspaceId) s.toInput).run env w).2.tables
    ∃ row stored, after.find? (.ofText id) = some row ∧ Storage.ofRow row = .ok stored ∧
      (stored.Opens key ↔ s.variant.BearsOpen key (.ofText id)) ∧
      (after.Opens key ↔ stored.Opens key) := by
  intro key id after
  have hdeposits : (save cloudMode actor (.ofText workspaceId) s.toInput).Ends env w.tables w.ids
      (fun _ _ => True) _ := save_deposits cloudMode actor workspaceId s
  rcases hdeposits.run w.at_self with ⟨_, -, hend⟩ | ⟨e, he, -⟩
  · rcases hend with ⟨hnew, hdeposited⟩ | ⟨given, current, hid, hne, hcurrent, hdeposited⟩
    · have hsame : id = env.freshId w.ids := Submission.idOr_of_new hnew
      rw [hsame]
      exact hdeposited.opens_iff hn ht
    · have hsame : id = given := Submission.idOr_of_given hid hne
      obtain ⟨row, stored, hf, hread, hiff, htables⟩ := hdeposited.opens_iff hn ht
      rw [hsame]
      exact ⟨row, stored, hf, hread,
        hiff.trans (Variant.bearsOpen_merge (ht.of_stores hcurrent) s.variant), htables⟩
  · cases hsaved.symm.trans he

/-- A password in clear is encrypted, and its row has it back. -/
theorem save_opens_iff_password :
    let env := Environment.undisturbed "key" (fun _ => "1") fun _ => List.replicate 12 0
    let saved := (save false ⟨.ofText "u", .admin⟩ (.ofText "w") Submission.backups.toInput).run env
      (.start ⟨[], [], [], []⟩)
    saved.1.isOk = true ∧ saved.2.tables.Opens "key" ∧
      ∃ row, saved.2.tables.find? (.ofText "1") = some row := by
  intro env saved
  have hok : saved.1.isOk = true := by decide +kernel
  obtain ⟨view, hview⟩ : ∃ view, saved.1 = .ok view := by
    rcases hsaved : saved.1 with e | view
    · rw [hsaved] at hok
      cases hok
    · exact ⟨view, rfl⟩
  have hn : ∀ n, (env.nonce n).length = Field.nonceLength := fun _ => rfl
  obtain ⟨row, stored, hf, -, hiff, htables⟩ := save_opens_iff hn false ⟨.ofText "u", .admin⟩ "w"
    .backups (Tables.opens_of_empty rfl) hview
  have hplain : Submission.backups.variant.BearsOpen "key" (.ofText "1") := by
    intro f hf hmarked
    obtain rfl := List.mem_singleton.1 hf
    exact absurd hmarked (by decide)
  exact ⟨hok, htables.2 (hiff.2 hplain), row, hf⟩

/-- **A password that begins like a stored one is saved, and nobody has it back.** -/
theorem save_stores_closed :
    let env := Environment.undisturbed "key" (fun _ => "1") fun _ => List.replicate 12 0
    let s : Submission :=
      ⟨none, "w", "backups", false, ⟨.ftp, ⟨"host", 21, "user", "enc:x", false, false, ""⟩⟩⟩
    let w := World.start ⟨[], [], [], []⟩
    w.tables.Opens "key" ∧ ∃ view after,
      (save false ⟨.ofText "u", .admin⟩ (.ofText "w") s.toInput).run env w = (.ok view, after) ∧
      ∃ row stored, after.tables.find? (.ofText "1") = some row ∧
        Storage.ofRow row = .ok stored ∧ ¬stored.Opens "key" := by
  intro env s w
  have hopen : w.tables.Opens env.settings.encryptionKey := Tables.opens_of_empty rfl
  have hok : ((save false ⟨.ofText "u", .admin⟩ (.ofText "w") s.toInput).run env w).1.isOk =
      true := by decide +kernel
  have hclosed : ¬s.variant.BearsOpen "key" (.ofText "1") := by
    intro hbears
    -- the text has no room for a nonce and a tag
    obtain ⟨text, htext⟩ := hbears _ (List.mem_cons_self ..) (by decide)
    have hshort : Field.decryptFor (.ofText "key") (.ofText "1") "enc:x" = .error .truncated := by
      decide +kernel
    cases hshort.symm.trans htext
  have hn : ∀ n, (env.nonce n).length = Field.nonceLength := fun _ => rfl
  have hkey : env.settings.encryptionKey = "key" := rfl
  have hfresh : env.freshId w.ids = "1" := rfl
  have hnew : s.id = none := rfl
  -- from here on it does not matter what is saved where
  clear_value env s w
  have hdeposits : (save false ⟨.ofText "u", .admin⟩ (.ofText "w") s.toInput).Ends env w.tables
      w.ids (fun _ _ => True) _ := save_deposits false ⟨.ofText "u", .admin⟩ "w" s
  have hend := hdeposits w w.at_self
  rcases hrun : (save false ⟨.ofText "u", .admin⟩ (.ofText "w") s.toInput).run env w with
    ⟨e | view, after⟩ <;> rw [hrun] at hok hend
  · cases hok
  rcases hend with ⟨-, hdeposited⟩ | ⟨id, -, hid, -⟩
  · obtain ⟨row, stored, hf, hread, hiff, -⟩ := hdeposited.opens_iff hn hopen
    rw [hkey] at hopen hiff
    rw [hfresh] at hf hiff
    exact ⟨hopen, view, after, rfl, row, stored, hf, hread, fun hopens => hclosed (hiff.1 hopens)⟩
  · cases hnew.symm.trans hid

end Service

end Depository
