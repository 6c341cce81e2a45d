import Depository.Cipher.Field
import Depository.Json.Cell

/-!
# Owners of encrypted fields

A field is encrypted for the record that owns it.  What is given as the id of that record may be no
text, and neither may the secret of the service: then no key can be derived, which is told with what
was given.

* `Field.encryptFor`, `Field.decryptFor` — the cipher for an owner;
* `Field.reveal` — the text of a field that may be stored or freshly submitted.

For texts they are `Field.encrypt` and `Field.decrypt`.
-/

namespace Depository

namespace Field

/-- The stored form of a text that belongs to an owner.  The secret is looked at first, then the
owner, the nonce and the text. -/
def encryptFor (secret : Cell) (nonce : Bytes) (owner text : Cell) :
    Except EncryptionFault String :=
  match secret.text?, owner.text?, text.text? with
  | some key, some id, some t => encrypt key id nonce t
  | some _, some _, none =>
    .error (if isNonce nonce then .noText text.received else .invalidNonce)
  | some _, none, _ => .error (.ownerless owner.received)
  | none, _, _ => .error (.noSecret secret.received)

/-- The text of a stored form that belongs to an owner.  That it is one is looked at first. -/
def decryptFor (secret owner : Cell) (value : String) : Except DecryptionFault String :=
  match storedBytes value with
  | .error fault => .error fault
  | .ok bytes =>
    match secret.text?, owner.text? with
    | some key, some id => opened key id bytes
    | some _, none => .error (.ownerless owner.received)
    | none, _ => .error (.noSecret secret.received)

/-- The text of a field: of a stored form the text that it encrypts, which needs the record that it
belongs to, and of another text that text. -/
def reveal (secret owner : Cell) (value : String) : Except DecryptionFault String :=
  if !isMarked value then .ok value
  else if owner.isTruthy then decryptFor secret owner value
  else .error .unowned

@[simp] theorem encryptFor_ofText (secret : String) (nonce : Bytes) (id text : String) :
    encryptFor (.ofText secret) nonce (.ofText id) (.ofText text) =
      encrypt secret id nonce text := rfl

@[simp] theorem decryptFor_ofText (secret id value : String) :
    decryptFor (.ofText secret) (.ofText id) value = decrypt secret id value := by
  unfold decryptFor decrypt
  cases storedBytes value <;> rfl

end Field

end Depository
