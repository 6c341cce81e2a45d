import Depository.Failure
import Depository.Proofs.Cipher.Field

/-!
# What a record opens

A stored form splits into a nonce, a tag and a ciphertext in one way (`Field.IsSplit.unique`), and a
record opens exactly the forms whose tag is the tag of the rest under its own key
(`Field.decrypt_accepts_authentic`).  Counter mode is its own inverse, so what is opened encrypts to
the same bytes again: there is no second stored form of the same bytes under the same nonce.
Encryption always gives such a form, and with another nonce another one
(`Field.encrypt_reversible_and_fresh`).
-/

namespace Depository

namespace Gcm

variable {cipher : Aes.Block → Aes.Block} {nonce additional text : Bytes} {w : Wrapped}

/-- A text is unwrapped if and only if wrapping it gives the same tag and ciphertext again. -/
theorem unwrap?_eq_some_iff :
    unwrap? cipher nonce additional w = some text ↔ wrap cipher nonce additional text = w := by
  constructor
  · intro h
    unfold unwrap? at h
    split at h
    case isTrue htag =>
      obtain rfl := Option.some.inj h
      have hback : encrypt cipher nonce (encrypt cipher nonce w.ciphertext) = w.ciphertext :=
        combine_combine cipher _ _
      rw [wrap, hback, ← htag]
    case isFalse => cases h
  · rintro rfl
    exact unwrap?_wrap cipher nonce additional text

/-- Nothing is unwrapped under another tag. -/
theorem unwrap?_eq_none (h : w.tag ≠ tag cipher nonce additional w.ciphertext) :
    unwrap? cipher nonce additional w = none := if_neg h

/-- Under its tag every ciphertext is unwrapped. -/
theorem exists_unwrap?_eq_some (h : w.tag = tag cipher nonce additional w.ciphertext) :
    ∃ text, unwrap? cipher nonce additional w = some text := ⟨_, if_pos h⟩

end Gcm

/-- With the id of a record at hand, the failure never tells what the cipher found. -/
theorem Failure.ofDecryption_ofText (entity : String) (fault : Field.DecryptionFault) :
    ofDecryption (.ofText entity) fault = .decryption := by
  simp [ofDecryption, Cell.ofText, Cell.plainText?, Json.plainText?]

namespace Field

variable {secret entity value value' : String} {nonce nonce' : Bytes} {w w' : Gcm.Wrapped}

/-! ### Splitting a stored form -/

/-- The text is marked, and the bytes after the marker are a nonce of twelve bytes, a tag of sixteen
bytes and a ciphertext. -/
structure IsSplit (value : String) (nonce : Bytes) (w : Gcm.Wrapped) : Prop where
  marked : isMarked value = true
  payload : payload value = layout nonce w
  length_nonce : nonce.length = 12
  length_tag : w.tag.length = 16

namespace IsSplit

variable (h : IsSplit value nonce w)

include h

theorem length_payload : (Field.payload value).length = 28 + w.ciphertext.length := by
  rw [h.payload, length_layout, h.length_nonce, h.length_tag]

theorem take_payload : (Field.payload value).take 12 = nonce := by
  rw [h.payload, layout, List.append_assoc, List.take_left' h.length_nonce]

theorem drop_payload : (Field.payload value).drop 28 = w.ciphertext := by
  have hfront : (nonce ++ w.tag).length = 28 := by
    rw [List.length_append, h.length_nonce, h.length_tag]
  rw [h.payload, layout, List.drop_left' hfront]

/-- There is one way to split a text. -/
theorem unique (h' : IsSplit value nonce' w') : nonce = nonce' ∧ w = w' := by
  have hnonce : nonce = nonce' := by rw [← h.take_payload, h'.take_payload]
  have hciphertext : w.ciphertext = w'.ciphertext := by rw [← h.drop_payload, h'.drop_payload]
  have hlayout : layout nonce w = layout nonce' w' := by rw [← h.payload, h'.payload]
  rw [layout, layout, hnonce, hciphertext, List.append_left_inj, List.append_right_inj] at hlayout
  obtain ⟨ciphertext, tag⟩ := w
  cases hciphertext
  cases hlayout
  exact ⟨hnonce, rfl⟩

/-- A form that splits is opened as its parts are unwrapped. -/
theorem decrypt_eq (secret entity : String) :
    decrypt secret entity value =
      match Gcm.unwrap? (cipher secret entity) nonce (Text.Utf8.encode entity) w with
      | some text => .ok (Text.Utf8.decode text)
      | none => .error .unauthentic := by
  have hstored : storedBytes value = .ok (layout nonce w) := by
    have hroom : ¬(Field.payload value).length < nonceLength + tagLength := by
      rw [h.length_payload, nonceLength, tagLength]
      omega
    rw [storedBytes, h.marked, if_neg hroom, h.payload]
    rfl
  rw [decrypt, hstored]
  exact opened_layout secret entity h.length_nonce h.length_tag

/-- A wrong tag is refused. -/
theorem decrypt_of_ne
    (hne : w.tag ≠ Gcm.tag (cipher secret entity) nonce (Text.Utf8.encode entity) w.ciphertext) :
    decrypt secret entity value = .error .unauthentic := by
  rw [h.decrypt_eq, Gcm.unwrap?_eq_none hne]

end IsSplit

theorem isSplit_stored (hn : nonce.length = 12) (ht : w.tag.length = 16) :
    IsSplit (stored (layout nonce w)) nonce w :=
  ⟨isMarked_stored _, payload_stored _, hn, ht⟩

/-- Whatever has room for a nonce and a tag splits. -/
theorem exists_isSplit (hm : isMarked value = true) (hroom : 28 ≤ (payload value).length) :
    ∃ nonce w, IsSplit value nonce w := by
  have hrest : (payload value).drop 28 = ((payload value).drop 12).drop 16 := by
    rw [List.drop_drop]
  refine ⟨(payload value).take 12,
    ⟨(payload value).drop 28, ((payload value).drop 12).take 16⟩, hm, ?_, ?_, ?_⟩
  · rw [layout, List.append_assoc, hrest, List.take_append_drop, List.take_append_drop]
  · rw [List.length_take]
    omega
  · rw [List.length_take, List.length_drop]
    omega

/-- A text that does not split is refused before any key is looked at. -/
theorem decrypt_of_not_isSplit (h : ¬∃ nonce w, IsSplit value nonce w) (secret entity : String) :
    decrypt secret entity value =
      .error (if isMarked value then .truncated else .unmarked) := by
  cases hm : isMarked value with
  | false => simp [decrypt, storedBytes, hm]
  | true =>
    have hroom : (payload value).length < nonceLength + tagLength :=
      Nat.lt_of_not_le fun hle => h (exists_isSplit hm hle)
    simp [decrypt, storedBytes, hm, hroom]

/-! ### What is opened -/

/-- The text splits into these parts, and the tag is that of the rest for the record `entity`. -/
structure IsAuthentic (secret entity value : String) (nonce : Bytes) (w : Gcm.Wrapped) : Prop
    extends IsSplit value nonce w where
  authentic : w.tag = Gcm.tag (cipher secret entity) nonce (Text.Utf8.encode entity) w.ciphertext

/-- The stored form of wrapped bytes is authentic. -/
theorem isAuthentic_stored {plain : Bytes} (hn : nonce.length = 12)
    (h : Gcm.wrap (cipher secret entity) nonce (Text.Utf8.encode entity) plain = w) :
    IsAuthentic secret entity (stored (layout nonce w)) nonce w := by
  subst h
  refine ⟨isSplit_stored hn (length_tag_wrap ..), ?_⟩
  simp only [Gcm.wrap]

/-- What is authentic is opened, and what is opened encrypts to the same bytes again. -/
theorem IsAuthentic.opens (h : IsAuthentic secret entity value nonce w) :
    ∃ plain, Gcm.wrap (cipher secret entity) nonce (Text.Utf8.encode entity) plain = w ∧
      decrypt secret entity value = .ok (Text.Utf8.decode plain) := by
  obtain ⟨plain, hplain⟩ := Gcm.exists_unwrap?_eq_some h.authentic
  refine ⟨plain, Gcm.unwrap?_eq_some_iff.1 hplain, ?_⟩
  rw [h.toIsSplit.decrypt_eq, hplain]

/-- Whatever is not authentic is refused. -/
theorem decrypt_of_not_isAuthentic (h : ¬∃ nonce w, IsAuthentic secret entity value nonce w) :
    ∃ fault, decrypt secret entity value = .error fault := by
  by_cases hsplit : ∃ nonce w, IsSplit value nonce w
  · obtain ⟨nonce, w, hsplit⟩ := hsplit
    exact ⟨_, hsplit.decrypt_of_ne fun htag => h ⟨nonce, w, hsplit, htag⟩⟩
  · exact ⟨_, decrypt_of_not_isSplit hsplit secret entity⟩

/-- Another tag beside the same nonce and ciphertext is refused. -/
theorem IsAuthentic.decrypt_of_tag_changed (h : IsAuthentic secret entity value nonce w)
    (hm : isMarked value' = true) (hlen : (payload value').length = (payload value).length)
    (hnonce : (payload value').take 12 = (payload value).take 12)
    (hciphertext : (payload value').drop 28 = (payload value).drop 28)
    (hne : payload value' ≠ payload value) :
    decrypt secret entity value' = .error .unauthentic := by
  obtain ⟨nonce', w', h'⟩ := exists_isSplit hm (by rw [hlen, h.length_payload]; omega)
  rw [h'.take_payload, h.take_payload] at hnonce
  rw [h'.drop_payload, h.drop_payload] at hciphertext
  refine h'.decrypt_of_ne fun htag => hne ?_
  -- the right tag of this nonce and ciphertext is the old one
  rw [hnonce, hciphertext, ← h.authentic] at htag
  rw [h'.payload, h.payload, layout, layout, hnonce, htag, hciphertext]

/-- **A record opens exactly the authentic texts**, each to the text of the bytes that encrypt to it
again under its nonce.  Anything else is refused, and the failure is that of a field that was not
decrypted; an authentic text is refused already when nothing but its tag is changed. -/
theorem decrypt_accepts_authentic (secret entity value : String) :
    ((∃ text, decrypt secret entity value = .ok text) ↔
      ∃ nonce w, IsAuthentic secret entity value nonce w) ∧
    (∀ nonce w, IsAuthentic secret entity value nonce w →
      ∃ plain,
        layout nonce (Gcm.wrap (cipher secret entity) nonce (Text.Utf8.encode entity) plain) =
          payload value ∧
        decrypt secret entity value = .ok (Text.Utf8.decode plain)) ∧
    ((¬∃ nonce w, IsAuthentic secret entity value nonce w) →
      ∃ fault, decrypt secret entity value = .error fault ∧
        Failure.ofDecryption (.ofText entity) fault = .decryption) ∧
    (∀ nonce w value', IsAuthentic secret entity value nonce w → isMarked value' = true →
      (payload value').length = (payload value).length →
      (payload value').take 12 = (payload value).take 12 →
      (payload value').drop 28 = (payload value).drop 28 →
      payload value' ≠ payload value →
      ∃ fault, decrypt secret entity value' = .error fault ∧
        Failure.ofDecryption (.ofText entity) fault = .decryption) := by
  refine ⟨⟨?accepted, ?authentic⟩, ?recovered, ?refused, ?tampered⟩
  case accepted =>
    rintro ⟨text, htext⟩
    refine Classical.byContradiction fun hnone => ?_
    obtain ⟨fault, hfault⟩ := decrypt_of_not_isAuthentic hnone
    rw [hfault] at htext
    cases htext
  case authentic =>
    rintro ⟨nonce, w, h⟩
    obtain ⟨plain, -, hopen⟩ := h.opens
    exact ⟨_, hopen⟩
  case recovered =>
    intro nonce w h
    obtain ⟨plain, hwrap, hopen⟩ := h.opens
    exact ⟨plain, by rw [hwrap, h.payload], hopen⟩
  case refused =>
    intro hnone
    obtain ⟨fault, hfault⟩ := decrypt_of_not_isAuthentic hnone
    exact ⟨fault, hfault, Failure.ofDecryption_ofText entity fault⟩
  case tampered =>
    intro nonce w value' h hm hlen hnonce hciphertext hne
    exact ⟨_, h.decrypt_of_tag_changed hm hlen hnonce hciphertext hne,
      Failure.ofDecryption_ofText entity _⟩

/-- The form of the empty text of a record is opened; with every byte of the tag one higher it is
not, and neither is a text without the marker. -/
theorem decrypt_accepts_authentic_empty :
    let nonce : Bytes := List.replicate 12 0
    let w := Gcm.wrap (cipher "0123456789abcdef" "r1") nonce (Text.Utf8.encode "r1") []
    (∃ text, decrypt "0123456789abcdef" "r1" (stored (layout nonce w)) = .ok text) ∧
    (∃ fault, decrypt "0123456789abcdef" "r1"
        (stored (layout nonce { w with tag := w.tag.map (· + 1) })) = .error fault ∧
      Failure.ofDecryption (.ofText "r1") fault = .decryption) ∧
    ∃ fault, decrypt "0123456789abcdef" "r1" "in clear" = .error fault ∧
      Failure.ofDecryption (.ofText "r1") fault = .decryption := by
  intro nonce w
  have hn : nonce.length = 12 := rfl
  have ht : w.tag.length = 16 := length_tag_wrap ..
  have hsplit : IsSplit (stored (layout nonce w)) nonce w := isSplit_stored hn ht
  have hforged : IsSplit (stored (layout nonce { w with tag := w.tag.map (· + 1) })) nonce
      { w with tag := w.tag.map (· + 1) } := isSplit_stored hn (by rw [List.length_map, ht])
  have hauthentic : IsAuthentic "0123456789abcdef" "r1" (stored (layout nonce w)) nonce w :=
    isAuthentic_stored hn rfl
  obtain ⟨hopened, -, -, htampered⟩ :=
    decrypt_accepts_authentic "0123456789abcdef" "r1" (stored (layout nonce w))
  obtain ⟨-, -, hrefused, -⟩ := decrypt_accepts_authentic "0123456789abcdef" "r1" "in clear"
  refine ⟨hopened.2 ⟨nonce, w, hauthentic⟩, ?tampered, ?clear⟩
  case tampered =>
    apply htampered nonce w _ hauthentic hforged.marked
    · rw [hforged.length_payload, hsplit.length_payload]
    · rw [hforged.take_payload, hsplit.take_payload]
    · rw [hforged.drop_payload, hsplit.drop_payload]
    · intro hsame
      rw [hforged.payload, hsplit.payload, layout, layout, List.append_left_inj,
        List.append_right_inj] at hsame
      cases htag : w.tag with
      | nil => simp [htag] at ht
      | cons b rest => simp [htag] at hsame
  case clear =>
    apply hrefused
    rintro ⟨nonce, w, h⟩
    exact absurd h.marked (by decide)

/-! ### What encryption gives -/

theorem exists_isSplit_of_encrypt {text : String} (hn : nonce.length = 12)
    (h : encrypt secret entity nonce text = .ok value) : ∃ w, IsSplit value nonce w := by
  rw [encrypt_eq_ok secret entity text hn] at h
  obtain rfl := Except.ok.inj h
  exact ⟨_, isSplit_stored hn (length_tag_wrap ..)⟩

/-- **Encryption can be undone, and it is fresh.**  From every text a record gets a marked one that
it opens to that text again, also where a field may be in clear; and texts that are encrypted under
different nonces are stored differently, whatever they are and whatever records they belong to. -/
theorem encrypt_reversible_and_fresh (secret : String) :
    (∀ entity text nonce, entity ≠ "" → nonce.length = 12 →
      ∃ value, encrypt secret entity nonce text = .ok value ∧ isMarked value = true ∧
        decrypt secret entity value = .ok text ∧
        reveal (.ofText secret) (.ofText entity) value = .ok text) ∧
    (∀ entity entity' text text' nonce nonce' value value', nonce.length = 12 →
      nonce'.length = 12 → nonce ≠ nonce' →
      encrypt secret entity nonce text = .ok value →
      encrypt secret entity' nonce' text' = .ok value' → value ≠ value') := by
  constructor
  · intro entity text nonce hentity hn
    obtain ⟨value, hvalue⟩ : ∃ value, encrypt secret entity nonce text = .ok value :=
      ⟨_, encrypt_eq_ok secret entity text hn⟩
    have hm := isMarked_of_encrypt hvalue
    have hopen := decrypt_encrypt hn hvalue
    refine ⟨value, hvalue, hm, hopen, ?_⟩
    have howner : (Cell.ofText entity).isTruthy = true := by
      simpa [Cell.ofText, Cell.isTruthy, Json.isTruthy] using hentity
    rw [reveal, hm, howner, decryptFor_ofText]
    exact hopen
  · rintro entity entity' text text' nonce nonce' value value' hn hn' hne hvalue hvalue' rfl
    obtain ⟨w, hw⟩ := exists_isSplit_of_encrypt hn hvalue
    obtain ⟨w', hw'⟩ := exists_isSplit_of_encrypt hn' hvalue'
    exact hne (hw.unique hw').1

/-- The empty text of one record, encrypted twice. -/
theorem encrypt_reversible_and_fresh_twice :
    ∃ value value', encrypt "0123456789abcdef" "r1" (List.replicate 12 0) "" = .ok value ∧
      encrypt "0123456789abcdef" "r1" (List.replicate 12 1) "" = .ok value' ∧
      decrypt "0123456789abcdef" "r1" value = .ok "" ∧
      decrypt "0123456789abcdef" "r1" value' = .ok "" ∧ value ≠ value' := by
  obtain ⟨hreversible, hfresh⟩ := encrypt_reversible_and_fresh "0123456789abcdef"
  obtain ⟨value, hvalue, -, hopen, -⟩ :=
    hreversible "r1" "" (List.replicate 12 0) (by decide) (by decide)
  obtain ⟨value', hvalue', -, hopen', -⟩ :=
    hreversible "r1" "" (List.replicate 12 1) (by decide) (by decide)
  exact ⟨value, value', hvalue, hvalue', hopen, hopen',
    hfresh "r1" "r1" "" "" _ _ value value' (by decide) (by decide) (by decide) hvalue hvalue'⟩

end Field

end Depository
