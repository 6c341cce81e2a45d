import Depository.Proofs.Service.Save
import Depository.Storage.Input

/-!
# What is sent is read back

A view is sent as an object with one key for each backend, of which only that of the storage has a
configuration.  The reader looks the key up again, by the name that was sent.  So a record that is
sent with its configuration is read as the submission of just that, and what stands under the keys
of the other backends makes no difference, whether the body is read or refused
(`Input.parse_undoes_view`).

* `Record.exposed` — a record as it is sent, and `Record.told` — the submission that it is read as;
* `Schema.option_eq_valid` — a backend is read from its name only, since no number is written like
  one;
* `Input.readHeader_eq_valid` — what the reader of a header accepts;
* `Input.parse_congr` — a body is read by its header and the key of its backend.
-/

namespace Depository

/-! ### Numbers are written without capital letters -/

namespace Number

theorem isUpper_of_mem_toDigits {n : Nat} {c : Char} (h : c ∈ Nat.toDigits 10 n) :
    c.isUpper = false := by
  have hdigit := Nat.isDigit_of_mem_toDigits (by decide) (by decide) h
  obtain ⟨-, hnine⟩ := Bool.and_eq_true_iff.1 hdigit
  have hbelow : c.val ≤ '9'.val := of_decide_eq_true hnine
  have hcapital : ¬ (c.val ≥ 'A'.val ∧ c.val ≤ 'Z'.val) := fun ⟨habove, _⟩ =>
    absurd (UInt32.le_trans habove hbelow) (by decide)
  exact decide_eq_false hcapital

theorem isUpper_layout {digits : List Char} (h : ∀ c ∈ digits, c.isUpper = false) (point : Int) :
    ∀ c ∈ layout digits point, c.isUpper = false := by
  have hzero : ∀ n, ∀ c ∈ List.replicate n '0', c.isUpper = false := by
    intro n c hc
    rw [List.eq_of_mem_replicate hc]
    rfl
  intro c hc
  simp only [layout] at hc
  split at hc
  · exact List.forall_mem_append.2 ⟨h, hzero _⟩ c hc
  split at hc
  · rcases List.mem_append.1 hc with hc | hc
    · exact h c (List.mem_of_mem_take hc)
    · rcases List.mem_cons.1 hc with rfl | hc
      · rfl
      · exact h c (List.mem_of_mem_drop hc)
  split at hc
  · simp only [List.cons_append, List.mem_cons, List.mem_append] at hc
    rcases hc with rfl | rfl | hc | hc
    · rfl
    · rfl
    · exact hzero _ c hc
    · exact h c hc
  -- there is an exponent, after the digits with a point behind the first one
  rcases List.mem_append.1 hc with hc | hc
  · rcases digits with _ | ⟨d, _ | ⟨e, rest⟩⟩
    · exact h c hc
    · exact h c hc
    · rcases List.mem_cons.1 hc with rfl | hc
      · exact h c List.mem_cons_self
      · rcases List.mem_cons.1 hc with rfl | hc
        · rfl
        · exact h c (List.mem_cons_of_mem d hc)
  · rcases List.mem_cons.1 hc with rfl | hc
    · rfl
    · rcases List.mem_cons.1 hc with rfl | hc
      · split <;> rfl
      · exact isUpper_of_mem_toDigits hc

theorem isUpper_magnitudeText (num k : Nat) : ∀ c ∈ magnitudeText num k, c.isUpper = false := by
  rw [magnitudeText]
  split
  · simp
  · refine isUpper_layout (fun c hc => ?_) _
    rw [withoutTrailingZeros, List.mem_reverse] at hc
    have hall := (List.dropWhile_sublist _).mem hc
    exact isUpper_of_mem_toDigits (List.mem_reverse.1 hall)

/-- **No number is written like the name of a backend**, which starts with a capital letter. -/
theorem text_ne_name (n : Number) (b : Backend) : n.text ≠ b.name := by
  have hcapital : b.name.toList.any Char.isUpper = true := by cases b <;> decide
  obtain ⟨capital, hmem, hupper⟩ := List.any_eq_true.1 hcapital
  have hfinite : ∀ (negative : Prop) [Decidable negative] (num k : Nat),
      String.ofList (if negative then '-' :: magnitudeText num k else magnitudeText num k) ≠
        b.name := by
    intro negative _ num k heq
    rw [← heq, String.toList_ofList] at hmem
    have hlower : capital.isUpper = false := by
      split at hmem
      · rcases List.mem_cons.1 hmem with rfl | hmem
        · rfl
        · exact isUpper_magnitudeText num k capital hmem
      · exact isUpper_magnitudeText num k capital hmem
    rw [hupper] at hlower
    cases hlower
  cases n with
  | integer value => exact hfinite _ _ _
  | fraction half depth => exact hfinite _ _ _
  | infinite negative => cases negative <;> cases b <;> decide
  | nan => cases b <;> decide

end Number

/-! ### Headers -/

theorem Backend.payloadKey_injective : Function.Injective payloadKey := by
  intro b c h
  cases b <;> cases c <;> first | rfl | exact absurd h (by decide)

theorem Backend.ofName?_eq_some {s : String} {b : Backend} : ofName? s = some b ↔ s = b.name := by
  constructor
  · intro h
    obtain ⟨before, after, htable, -⟩ := List.lookup_eq_some_iff.1 h
    have hmem : (s, b) ∈ table := by simp [htable]
    obtain ⟨c, -, hc⟩ := List.mem_map.1 hmem
    obtain ⟨rfl, rfl⟩ := Prod.mk.inj hc
    rfl
  · rintro rfl
    exact ofName?_name b

namespace Schema

theorem choose_eq_valid {s : String} {b : Backend} :
    choose Backend.table s = .valid b ↔ s = b.name := by
  rw [← Backend.ofName?_eq_some, choose, Backend.ofName?]
  cases Backend.table.lookup s <;> simp [Checked.problem]

/-- **A backend is read from its name**, and from nothing else. -/
theorem option_eq_valid {v : Option Json} {b : Backend} :
    option Backend.table true v = .valid b ↔ v = some (.string b.name) := by
  match v with
  | some (.string s) => rw [option, choose_eq_valid]; simp
  | some (.number .nan) => simp [option, Checked.problem]
  | some (.number (.integer value)) =>
    rw [option, if_pos rfl, choose_eq_valid]
    · simp [Number.text_ne_name]
    · simp
  | some (.number (.fraction half depth)) =>
    rw [option, if_pos rfl, choose_eq_valid]
    · simp [Number.text_ne_name]
    · simp
  | some (.number (.infinite negative)) =>
    rw [option, if_pos rfl, choose_eq_valid]
    · simp [Number.text_ne_name]
    · simp
  | none | some .null | some (.bool _) | some (.array _) | some (.object _) =>
    simp [option, Checked.problem]

end Schema

namespace Input

open Schema

/-- What the reader of a header accepts. -/
theorem readHeader_eq_valid {o : Json} {h : Header} :
    readHeader o = .valid h ↔
      idField (o.get? "id") = .valid h.id ∧
      (string.orProblem (.missingNamed "workspaceId")).uuid .notUuid (o.get? "workspaceId") =
        .valid h.workspaceId ∧
      nameField (o.get? "name") = .valid h.name ∧
      o.get? "type" = some (.string h.backend.name) ∧
      boolean.orElse false (o.get? "isSystem") = .valid h.isSystem := by
  cases h
  rw [← option_eq_valid, readHeader, Checked.eq_valid_iff]
  simp only [Checked.yields_map, Checked.yields_seq]
  simp only [Header.mk.injEq, Checked.yields_eq, Checked.yields_eq_and, Checked.yields_and_left,
    field_eq_valid]

/-- **A body is read by its header and the key of its backend.** -/
theorem parse_congr {ms ms' : Members Json}
    (h : ∀ key ∈ ["id", "workspaceId", "name", "type", "isSystem"],
      ms'.get? key = ms.get? key)
    (hpayload : ∀ b : Backend, ms.get? "type" = some (.string b.name) →
      ms'.get? b.payloadKey = ms.get? b.payloadKey) :
    parse (some (.object ms')) = parse (some (.object ms)) := by
  have hheader : readHeader (.object ms') = readHeader (.object ms) := by
    simp only [List.forall_mem_cons] at h
    obtain ⟨hid, hworkspace, hname, htype, hsystem, -⟩ := h
    simp only [readHeader, field, Json.get?, hid, hworkspace, hname, htype, hsystem]
  have hobject : ∀ ms : Members Json, object (some (.object ms)) = .valid (.object ms) :=
    fun _ => rfl
  simp only [parse, hobject, hheader]
  cases hread : readHeader (.object ms) with
  | invalid issues => rfl
  | valid header =>
    obtain ⟨-, -, -, htype, -⟩ := readHeader_eq_valid.1 hread
    have hsame : Json.get? header.backend.payloadKey (.object ms') =
        Json.get? header.backend.payloadKey (.object ms) := hpayload header.backend htype
    simp only [hsame]

end Input

/-! ### Records as they are sent -/

namespace Record

variable {r : Record}

/-- A record as it is sent to one who may see its configuration as it is. -/
def exposed (r : Record) : View := .ofVariant r.toStorage r.variant false

/-- The submission of just a record. -/
def told (r : Record) : Submission := ⟨some r.id, r.workspaceId, r.name, r.isSystem, r.variant⟩

theorem exposed_payload (r : Record) :
    r.exposed.payload = .shown r.variant.backend (some r.variant.payload) := by
  have hname : (Cell.ofText r.variant.typeName).text?.bind Backend.ofName? =
      some r.variant.backend := Backend.ofName?_name _
  rw [exposed, View.ofVariant, View.of, Payload.of, hname]
  rfl

/-- A record is sent with the members that a body is read from. -/
theorem get?_toJson_exposed (r : Record) :
    r.exposed.toJson.get? "id" = some (.string r.id) ∧
    r.exposed.toJson.get? "workspaceId" = some (.string r.workspaceId) ∧
    r.exposed.toJson.get? "name" = some (.string r.name) ∧
    r.exposed.toJson.get? "type" = some (.string r.variant.typeName) ∧
    r.exposed.toJson.get? "isSystem" = some (.bool r.isSystem) ∧
    r.exposed.toJson.get? r.variant.backend.payloadKey = some r.variant.payload := by
  rw [View.toJson, exposed_payload]
  obtain ⟨id, workspaceId, name, isSystem, lastSaveError, b, c⟩ := r
  cases lastSaveError <;> cases b <;> exact ⟨rfl, rfl, rfl, rfl, rfl, rfl⟩

open Schema in
/-- The header that is sent is read just as it is. -/
theorem readHeader_exposed (hid : Text.isUuid r.id = true)
    (hworkspace : Text.isUuid r.workspaceId = true) (hname : Text.trim r.name = r.name) :
    Input.readHeader r.exposed.toJson =
      .valid ⟨some r.id, r.workspaceId, r.name, r.variant.backend, r.isSystem⟩ := by
  obtain ⟨hi, hw, hn, ht, hs, -⟩ := r.get?_toJson_exposed
  refine Input.readHeader_eq_valid.2 ⟨?_, ?_, ?_, ht, ?_⟩
  · rw [hi]
    simp only [Input.idField, Reader.orElse, Reader.uuid, string, hid, if_true]
    rfl
  · rw [hw]
    simp only [Reader.orProblem, Reader.uuid, string, hworkspace, if_true]
  · rw [hn]
    exact congrArg Checked.valid hname
  · rw [hs]
    rfl

/-- **What is sent of a record is read as the submission of just that.** -/
theorem parse_exposed (hid : Text.isUuid r.id = true)
    (hworkspace : Text.isUuid r.workspaceId = true) (hname : Text.trim r.name = r.name)
    (hvariant : r.variant.IsNormal) :
    Input.parse (some r.exposed.toJson) = .ok r.told.toInput := by
  obtain ⟨-, -, -, -, -, hpayload⟩ := r.get?_toJson_exposed
  have hobject : Schema.object (some r.exposed.toJson) = .valid r.exposed.toJson := rfl
  have hread : Variant.parse r.variant.backend (some r.variant.payload) = .ok r.variant := hvariant
  rw [Input.parse, hobject]
  dsimp only
  rw [readHeader_exposed hid hworkspace hname]
  dsimp only
  rw [hpayload, hread]
  rfl

end Record

namespace Input

/-- No member of a header stands under the key of a backend. -/
theorem ne_payloadKey (b : Backend) :
    ∀ key ∈ ["id", "workspaceId", "name", "type", "isSystem"], key ≠ b.payloadKey := by
  cases b <;> decide

/-- **Reading undoes sending.**  Take a record of which the id and the workspace are UUIDs, the name
is trimmed and the variant was read from something submitted.  What is sent of it is read, as just
its id, its workspace, its name, whether it is a system storage, and its variant.  And take any two
bodies that differ only under keys of backends whose name is not sent as the type: they are read
alike, or refused for the same reason. -/
theorem parse_undoes_view :
    (∀ r : Record, Text.isUuid r.id = true → Text.isUuid r.workspaceId = true →
      Text.trim r.name = r.name →
      (∃ submitted, Variant.parse r.variant.backend submitted = .ok r.variant) →
      parse (some (View.ofVariant r.toStorage r.variant false).toJson) =
        .ok ⟨.ofText r.id, .ofText r.workspaceId, .ofText r.name, some (.bool r.isSystem),
          some r.variant⟩) ∧
    ∀ ms ms' : Members Json,
      (∀ key, ms'.get? key ≠ ms.get? key → ∃ b : Backend, key = b.payloadKey ∧
        ms.get? "type" ≠ some (.string b.name)) →
      parse (some (.object ms')) = parse (some (.object ms)) := by
  refine ⟨fun r hid hworkspace hname ⟨_, hsubmitted⟩ => ?_, fun ms ms' hdiffer => ?_⟩
  · exact Record.parse_exposed hid hworkspace hname (Variant.isNormal_of_parse hsubmitted)
  · refine parse_congr (fun key hkey => ?_) fun b htype => ?_
    · by_contra hne
      obtain ⟨b, rfl, -⟩ := hdiffer key hne
      exact ne_payloadKey b _ hkey rfl
    · by_contra hne
      obtain ⟨c, hc, hother⟩ := hdiffer _ hne
      obtain rfl : b = c := Backend.payloadKey_injective hc
      exact hother htype

/-- A storage on an FTP server is read back with its password, and with something put under the key
of network shares it is read alike. -/
theorem parse_undoes_view_backups :
    let r : Record := ⟨"00000000-0000-4000-8000-000000000001", Submission.backups.workspaceId,
      Submission.backups.name, false, none, Submission.backups.variant⟩
    let sent := View.ofVariant r.toStorage r.variant false
    let read : Input := ⟨.ofText r.id, .ofText r.workspaceId, .ofText r.name, some (.bool false),
      some r.variant⟩
    parse (some sent.toJson) = .ok read ∧
      ∃ ms : Members Json, sent.toJson = .object ms ∧
        parse (some (.object (ms.set "nasStorage" (.string "share")))) = .ok read := by
  intro r sent read
  have hsent : parse (some sent.toJson) = .ok read :=
    parse_undoes_view.1 r (by decide) (by decide) (by decide)
      ⟨_, Submission.isParsed_backups.isNormal⟩
  have htype : sent.toJson.get? "type" = some (.string "FTP") := r.get?_toJson_exposed.2.2.2.1
  refine ⟨hsent, _, rfl, (parse_undoes_view.2 _ _ fun key hkey => ⟨.nas, ?_, ?_⟩).trans hsent⟩
  · by_contra hother
    exact hkey (Members.get?_set_of_ne hother _ _)
  · intro hshare
    exact absurd (Json.string.inj (Option.some.inj (htype.symm.trans hshare))) (by decide)

end Input

end Depository
