import Depository.Proofs.Probe.Drive
import Depository.Proofs.Service.Upkeep

/-!
# Stored tokens of drives can be used

The token of a drive is looked into when it is submitted, in plain text, and never again while it is
stored.  But what is stored of a drive always seals a configuration in clear whose token can be
used: a submission that is accepted brings one, and an update of a drive keeps the one that was
there or brings another (`Variant.BearsToken.merge`).  So the connection test of a stored drive
never finds a token that it refuses.

* `Variant.BearsToken` — a drive has a token that can be used;
* `Environment.IsSteady` — what is assumed of the surroundings of the service;
* `Record.BearsToken` — what lasts of every record (`Record.bearsToken_lasts`);
* `ReachableBy.tokens_usable` — **every stored token can be used, and is never refused by a
  connection test**.
-/

namespace Depository

/-! ### Drives in clear -/

/-- The token of a drive is one of its secrets. -/
theorem Backend.exists_tokenSecret :
    ∃ f ∈ Backend.googleDrive.secrets, ∀ c : DriveConfig, f.get c = c.token :=
  ⟨_, List.mem_cons_of_mem _ (List.mem_singleton_self _), fun _ => rfl⟩

namespace Variant

/-- A drive is sealed in a drive, and its token in the token of that. -/
theorem Seals.drive {key entity : String} {stored clear : Variant}
    (h : Seals key entity stored clear) (hbackend : stored.backend = .googleDrive) :
    ∃ d c : DriveConfig, stored = ⟨.googleDrive, d⟩ ∧ clear = ⟨.googleDrive, c⟩ ∧
      Field.Seals key entity d.token c.token := by
  obtain ⟨b, d, c, rfl, rfl, -, hsecrets⟩ := h
  obtain rfl : b = .googleDrive := hbackend
  obtain ⟨f, hf, hget⟩ := Backend.exists_tokenSecret
  have hsealed := hsecrets f hf
  rw [hget, hget] at hsealed
  exact ⟨d, c, rfl, rfl, hsealed⟩

/-- If the variant is a drive, it has a token that can be used. -/
def BearsToken (v : Variant) : Prop :=
  ∀ c : DriveConfig, v = ⟨.googleDrive, c⟩ → (OAuth.Token.parse? c.token).isSome = true

/-- A new variant that was accepted in plain text bears a token. -/
theorem bearsToken_of_valid {v : Variant} (hplain : v.IsPlain) (hv : v.validate true = .ok ()) :
    v.BearsToken := by
  rintro c rfl
  obtain ⟨haccepts, hsupplied⟩ := Backend.validate_iff.1 hv
  obtain ⟨-, htoken⟩ : DriveConfig.clientSecret c ≠ "" ∧ c.token ≠ "" := hsupplied rfl
  obtain ⟨f, hf, hget⟩ := Backend.exists_tokenSecret
  have hunmarked : Field.isMarked c.token = false := hget c ▸ hplain f hf
  exact haccepts.2 (by simp [Backend.isSubmitted, htoken, hunmarked])

/-- **An update keeps the token or brings another one.**  What is checked of it is the variant that
it makes of the stored one. -/
theorem BearsToken.merge {key entity : String} {stored clear i : Variant} (h : clear.BearsToken)
    (hseals : Seals key entity stored clear) (hplain : i.IsPlain)
    (hv : (stored.merge i).variant.validate (stored.merge i).replaced = .ok ()) :
    (clear.merge i).variant.BearsToken := by
  obtain ⟨b, d, c, rfl, rfl, -, -⟩ := hseals
  obtain ⟨b', e⟩ := i
  by_cases hb : b = b'
  · subst hb
    rw [merge_same] at hv ⊢
    intro kept hkept
    obtain ⟨rfl, hkept⟩ := Variant.mk.inj hkept
    obtain rfl := eq_of_heq hkept
    obtain ⟨f, hf, hget⟩ := Backend.exists_tokenSecret
    have htoken := fun current => Secret.get_keepAll Backend.googleDrive.secrets_independent
      current e hf
    simp only [hget] at htoken
    obtain ⟨haccepts, -⟩ := Backend.validate_iff.1 hv
    by_cases hempty : DriveConfig.token e = ""
    · -- the token that was there is kept
      rw [htoken c, if_pos hempty]
      exact h c rfl
    · -- the new token is looked into in plain text
      have hunmarked : Field.isMarked (DriveConfig.token e) = false := hget e ▸ hplain f hf
      have hlooked := haccepts.2
      rw [htoken d, if_neg hempty] at hlooked
      rw [htoken c, if_neg hempty]
      exact hlooked (by simp [Backend.isSubmitted, hempty, hunmarked])
  · rw [merge_other hb] at hv ⊢
    exact bearsToken_of_valid hplain hv

end Variant

/-! ### What lasts of records -/

/-- The secret of the service is always the same, nobody else changes the tables while a connection
test runs, nonces have their length, and no id is empty. -/
structure Environment.IsSteady (key : String) (env : Environment) : Prop where
  secret : env.settings.encryptionKey = key
  quiet : env.IsQuiet
  nonces : ∀ n, (env.nonce n).length = Field.nonceLength
  ids : ∀ n, env.freshId n ≠ ""

/-- The submission was read from a body, and no secret of it is marked. -/
structure Submission.IsPlain (s : Submission) : Prop where
  parsed : s.IsParsed
  plain : s.variant.IsPlain

/-- The record seals a variant that bears a token if it is a drive. -/
structure Record.BearsToken (key : String) (r : Record) : Prop where
  owned : r.id ≠ ""
  normal : r.variant.IsNormal
  sealed : ∃ clear : Variant, Variant.Seals key r.id r.variant clear ∧ clear.BearsToken

/-- **Records go on bearing tokens**, through updates of all kinds. -/
theorem Record.bearsToken_lasts (key : String) :
    Record.Lasts (Environment.IsSteady key) Submission.IsPlain (BearsToken key) where
  quiet _ hE := hE.quiet
  normal _ hr := hr.normal
  moved _ hr _ _ := ⟨hr.owned, hr.normal, hr.sealed⟩
  created s hs _ hvalid drawn env hdrawn hE n _ _ hprotected := by
    rw [hE.secret] at hprotected
    exact ⟨hdrawn.ids n, hprotected.isNormal hs.parsed.isNormal,
      s.variant, .of_protects hE.nonces hs.plain hprotected,
      Variant.bearsToken_of_valid hs.plain hvalid⟩
  updated s hs _ old hold hvalid env hE _ hprotected := by
    rw [hE.secret] at hprotected
    obtain ⟨clear, hseals, htoken⟩ := hold.sealed
    exact ⟨hold.owned, hprotected.isNormal (Variant.isNormal_merge _ hs.parsed.isNormal),
      (clear.merge s.variant).variant, hseals.of_merge hE.nonces hs.plain hprotected,
      htoken.merge hseals hs.plain hvalid⟩

/-! ### Rows of drives -/

/-- A token of a text can be used. -/
theorem OAuth.Token.isUsable_of_parse {text : String} {token : OAuth.Token}
    (h : parse? text = some token) : token.isUsable = true := by
  obtain ⟨v, -, hv⟩ := Option.bind_eq_some_iff.1 h
  unfold ofJson? at hv
  obtain ⟨o, -, ho⟩ := Option.bind_eq_some_iff.1 hv
  obtain ⟨read, -, hread⟩ := Option.bind_eq_some_iff.1 ho
  split at hread
  · next husable => exact Option.some.inj hread ▸ husable
  · cases hread

theorem OAuth.Token.ne_empty_of_parse {text : String} (h : (parse? text).isSome = true) :
    text ≠ "" := by
  rintro rfl
  revert h
  decide

/-- **Every stored token can be used, and is never refused.**  Take tables that are reached from the
empty one by any requests with parsed submissions of which no secret is marked, one after another or
side by side, under one secret of the service and with nonces of 12 bytes.  Then a row of a drive
holds a record of which the token is decrypted to a text that is the JSON of a token with an access
token or a refresh token.  And whatever comes of the calls of a connection test of that record, the
test gets past its own check of the configuration and makes the client, it sets no credentials but
those of this token, it does set them if the client can be made, and it does not refuse the token,
unless a call fails in just these words. -/
theorem ReachableBy.tokens_usable {key : String} {t : Tables} {pool : List (Operation Unit)}
    (h : ReachableBy (fun request => ∀ s ∈ request.submission?, s.IsPlain)
      (Environment.IsSteady key) t pool) :
    ∀ row ∈ t.storages, row.get? "type" = .ofText "GOOGLE_DRIVE" →
      ∃ (r : Record) (stored : DriveConfig) (text : String) (token : OAuth.Token),
        row.Holds r ∧ r.variant = ⟨.googleDrive, stored⟩ ∧
        Field.decrypt key r.id stored.token = .ok text ∧ OAuth.Token.parse? text = some token ∧
        (OAuth.isFilled token.accessToken || OAuth.isFilled token.refreshToken) = true ∧
        ∀ (s : Settings) (directory : String) (cancelled : Bool) (w : Circumstances),
          s.encryptionKey = key →
          let report := Probe.test s directory (.ofText r.id) r.variant cancelled w
          (cancelled = false →
            ∃ id secret rest, report.calls = Call.googleClient id secret :: rest) ∧
          (∀ credentials, Call.googleCredentials credentials ∈ report.calls →
            credentials = token.credentials ∧
              (OAuth.isFilled credentials.accessToken ||
                OAuth.isFilled credentials.refreshToken) = true) ∧
          (cancelled = false → (∀ run id secret,
              (w.answer run (.googleClient id secret)).outcome = .ok ()) →
            Call.googleCredentials token.credentials ∈ report.calls) ∧
          (w.Meets (fun t => t.text? ≠ some Probe.tokenRefusal) →
            report.outcome ≠ .error (.connection .googleDrive Probe.tokenRefusal)) := by
  intro row hrow htype
  obtain ⟨r, hr, hbears⟩ := ReachableBy.all (Record.bearsToken_lasts key) h row hrow
  obtain ⟨clear, hseals, htoken⟩ := hbears.sealed
  have hreveal := hseals.reveal hbears.owned
  have hbackend : r.variant.backend = .googleDrive :=
    Variant.backend_of_typeName (hr.type.symm.trans htype)
  obtain ⟨d, c, hstored, rfl, hsealed⟩ := hseals.drive hbackend
  obtain ⟨token, hparse⟩ := Option.isSome_iff_exists.1 (htoken c rfl)
  rw [Field.Seals, if_neg (OAuth.Token.ne_empty_of_parse (htoken c rfl))] at hsealed
  have husable : token.isUsable = true := OAuth.Token.isUsable_of_parse hparse
  refine ⟨r, d, _, token, hr, hstored, hsealed.2, hparse, husable, ?_⟩
  rintro s directory cancelled w rfl
  have htest : Probe.test s directory (.ofText r.id) r.variant cancelled w =
      Probe.testConfig s directory (.integer s.probeTimeout) .googleDrive c cancelled w := by
    rw [Probe.test, Probe.testWithin, hreveal]
  rw [htest]
  obtain ⟨hbegun, honly, hgiven, htold⟩ := Probe.testConfig_drive hparse s directory
    (.integer s.probeTimeout) cancelled w
  refine ⟨fun hstarted => ⟨_, _, hbegun hstarted⟩, fun credentials hmem => ?_,
    fun hstarted hmade => ?_, htold⟩
  · obtain rfl := honly credentials hmem
    exact ⟨rfl, husable⟩
  · exact hgiven hstarted fun run => hmade run _ _

/-- A new storage on a drive. -/
def Submission.drive : Submission :=
  ⟨none, "00000000-0000-4000-8000-000000000000", "drive", false,
    ⟨.googleDrive, ⟨"client", "secret", "\x7b\"refresh_token\":\"t\"\x7d"⟩⟩⟩

theorem Submission.isPlain_drive : drive.IsPlain where
  parsed := ⟨some (.object [("workspaceId", .string drive.workspaceId),
    ("name", .string drive.name), ("type", .string "GOOGLE_DRIVE"),
    ("googleDriveStorage", drive.variant.payload)]), rfl⟩
  plain := by
    rintro f (_ | ⟨_, _ | ⟨_, hf⟩⟩)
    · decide
    · decide
    · cases hf

/-- What comes of saving it in a service without storages. -/
def Request.savedDrive : Except Failure Unit × World :=
  ((Request.save ⟨.ofText "u", .admin⟩ Submission.drive.workspaceId .drive).program false).run
    (.undisturbed "key" (fun _ => "a") fun _ => List.replicate 12 0) (.start ⟨[], [], [], []⟩)

/-- The drive that is there after it was saved. -/
theorem ReachableBy.tokens_usable_savedDrive :
    ∃ row ∈ Request.savedDrive.2.tables.storages, ∃ (r : Record) (text : String)
      (token : OAuth.Token),
      row.Holds r ∧ r.variant.backend = .googleDrive ∧ OAuth.Token.parse? text = some token ∧
        (OAuth.isFilled token.accessToken || OAuth.isFilled token.refreshToken) = true := by
  have hsteady : Environment.IsSteady "key" (.undisturbed "key" (fun _ => "a")
      fun _ => List.replicate 12 0) :=
    ⟨rfl, Environment.isQuiet_undisturbed _ _ _, fun _ => rfl, fun _ => (by decide : "a" ≠ "")⟩
  have hcall : ReachableBy (fun request => ∀ s ∈ request.submission?, s.IsPlain)
      (Environment.IsSteady "key") (World.start ⟨[], [], [], []⟩).tables ([] ++ _ :: []) :=
    .call false (.save ⟨.ofText "u", .admin⟩ Submission.drive.workspaceId .drive)
      (fun _ hs => Option.some.inj hs ▸ Submission.isPlain_drive) (.start rfl)
  have hdrive : Request.savedDrive.2.tables.storages.any
      (·.has "type" (.ofText "GOOGLE_DRIVE")) = true := by decide +kernel
  obtain ⟨row, hrow, htype⟩ := List.any_eq_true.1 hdrive
  obtain ⟨r, d, text, token, hr, hstored, -, hparse, husable, -⟩ :=
    ReachableBy.tokens_usable (hcall.run _ (.start ⟨[], [], [], []⟩) hsteady) row hrow
      (Cell.same_ofText.1 htype)
  exact ⟨row, hrow, r, text, token, hr, by rw [hstored], hparse, husable⟩

end Depository
