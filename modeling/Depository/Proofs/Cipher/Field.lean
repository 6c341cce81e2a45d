import Depository.Cipher.Owner
import Depository.Proofs.Text.Base64
import Depository.Proofs.Text.Utf8

/-!
# Encrypted fields open to what they encrypt

A stored form is marked and not empty (`Field.isMarked_of_encrypt`, `Field.ne_empty_of_isMarked`),
and with a nonce of the length that the form has room for, its record opens it to the text
(`Field.decrypt_encrypt`).
-/

namespace Depository

namespace Field

/-! ### The marker -/

@[simp] theorem isMarked_empty : isMarked "" = false := by decide

theorem ne_empty_of_isMarked {s : String} (h : isMarked s = true) : s ≠ "" := by
  rintro rfl
  simp at h

theorem isMarked_stored (bytes : Bytes) : isMarked (stored bytes) = true := by
  rw [isMarked, stored, String.toList_append]
  exact List.isPrefixOf_iff_prefix.2 (List.prefix_append _ _)

/-- Whatever is encrypted is stored with the marker. -/
theorem isMarked_of_encrypt {secret entity text value : String} {nonce : Bytes}
    (h : encrypt secret entity nonce text = .ok value) : isMarked value = true := by
  unfold encrypt at h
  split at h
  · obtain rfl := Except.ok.inj h
    exact isMarked_stored _
  · cases h

/-- The same for any owner. -/
theorem isMarked_of_encryptFor {secret owner : Cell} {text value : String} {nonce : Bytes}
    (h : encryptFor secret nonce owner (.ofText text) = .ok value) : isMarked value = true := by
  unfold encryptFor at h
  split at h
  · exact isMarked_of_encrypt h
  all_goals cases h

/-! ### The layout -/

theorem payload_stored (bytes : Bytes) : payload (stored bytes) = bytes := by
  rw [payload, stored, String.toList_append, List.drop_left, String.ofList_toList,
    Text.Base64.decode_encode]

theorem length_layout (nonce : Bytes) (w : Gcm.Wrapped) :
    (layout nonce w).length = nonce.length + w.tag.length + w.ciphertext.length := by
  simp only [layout, List.length_append]

theorem storedBytes_stored {bytes : Bytes} (h : nonceLength + tagLength ≤ bytes.length) :
    storedBytes (stored bytes) = .ok bytes := by
  rw [storedBytes, isMarked_stored, payload_stored, if_neg (by simp), if_neg (by omega)]

theorem length_tag_wrap (cipher : Aes.Block → Aes.Block) (nonce additional text : Bytes) :
    (Gcm.wrap cipher nonce additional text).tag.length = tagLength := by
  rw [Gcm.wrap, Gcm.length_tag, tagLength]

/-- The layout is cut where it was put together. -/
theorem opened_layout (secret entity : String) {nonce : Bytes} {w : Gcm.Wrapped}
    (hn : nonce.length = nonceLength) (ht : w.tag.length = tagLength) :
    opened secret entity (layout nonce w) =
      match Gcm.unwrap? (cipher secret entity) nonce (Text.Utf8.encode entity) w with
      | some text => .ok (Text.Utf8.decode text)
      | none => .error .unauthentic := by
  -- the nonce and the tag have their lengths, so each part is cut off where it ends
  have hnonce : (layout nonce w).take nonceLength = nonce := by
    rw [layout, List.append_assoc, ← hn, List.take_left]
  have hrest : (layout nonce w).drop nonceLength = w.tag ++ w.ciphertext := by
    rw [layout, List.append_assoc, ← hn, List.drop_left]
  have htag : (w.tag ++ w.ciphertext).take tagLength = w.tag := by rw [← ht, List.take_left]
  have hciphertext : (layout nonce w).drop (nonceLength + tagLength) = w.ciphertext := by
    rw [← List.drop_drop, hrest, ← ht, List.drop_left]
  have hopened : opened secret entity (layout nonce w) =
      match Gcm.unwrap? (cipher secret entity) ((layout nonce w).take nonceLength)
        (Text.Utf8.encode entity) ⟨(layout nonce w).drop (nonceLength + tagLength),
          ((layout nonce w).drop nonceLength).take tagLength⟩ with
      | some text => .ok (Text.Utf8.decode text)
      | none => .error .unauthentic := rfl
  rw [hopened, hnonce, hrest, htag, hciphertext]

/-! ### The round trip -/

/-- A nonce of the length that the stored form has room for is one that the cipher takes. -/
theorem encrypt_eq_ok (secret entity text : String) {nonce : Bytes}
    (hn : nonce.length = nonceLength) :
    encrypt secret entity nonce text = .ok (stored (layout nonce
      (Gcm.wrap (cipher secret entity) nonce (Text.Utf8.encode entity)
        (Text.Utf8.encode text)))) := by
  rw [encrypt, if_pos]
  simp [isNonce, hn, nonceLength]

/-- **A text that was encrypted for a record is what the record opens.** -/
theorem decrypt_encrypt {secret entity text value : String} {nonce : Bytes}
    (hn : nonce.length = nonceLength) (h : encrypt secret entity nonce text = .ok value) :
    decrypt secret entity value = .ok text := by
  rw [encrypt_eq_ok secret entity text hn] at h
  obtain rfl := Except.ok.inj h
  have ht := length_tag_wrap (cipher secret entity) nonce (Text.Utf8.encode entity)
    (Text.Utf8.encode text)
  have hlen := length_layout nonce (Gcm.wrap (cipher secret entity) nonce
    (Text.Utf8.encode entity) (Text.Utf8.encode text))
  rw [decrypt, storedBytes_stored (by omega)]
  simp only [opened_layout secret entity hn ht, Gcm.unwrap?_wrap, Text.Utf8.decode_encode]

end Field

end Depository
