import Depository.Cipher.Gcm
import Depository.Cipher.Sha256
import Depository.Text.Base64

/-!
# Encrypted fields

Secret fields of a record are stored encrypted: `enc:` and the Base64 text of the nonce (12 bytes),
the tag (16 bytes) and the ciphertext, in this order.  The key is derived from the secret of the
service and the id of the record, and the id is authenticated too, so that a stored field belongs to
its record.

* `Field.encrypt` — the stored form of a text;
* `Field.decrypt` — the text of a stored form.
-/

namespace Depository

namespace Field

/-- What a stored form begins with. -/
def marker : String := "enc:"

/-- The text is, or pretends to be, a stored form. -/
def isMarked (value : String) : Bool := marker.toList.isPrefixOf value.toList

/-- The number of bytes of a nonce in a stored form. -/
def nonceLength : Nat := 12

/-- The number of bytes of a tag. -/
def tagLength : Nat := 16

/-- What the derived keys are for. -/
def purpose : String := "storage-field-encryption"

/-- Why a text is not encrypted. -/
inductive EncryptionFault where
  /-- The nonce is empty or too long. -/
  | invalidNonce
  /-- The secret of the service is no text. -/
  | noSecret (received : String)
  /-- The record is given by something that is no text. -/
  | ownerless (received : String)
  /-- What is to be encrypted is no text. -/
  | noText (received : String)
  deriving DecidableEq, Repr

/-- Why a text is not decrypted. -/
inductive DecryptionFault where
  /-- It does not begin with the marker. -/
  | unmarked
  /-- It is not known which record it belongs to. -/
  | unowned
  /-- It has no room for a nonce and a tag. -/
  | truncated
  /-- Its tag is not the right one. -/
  | unauthentic
  /-- The secret of the service is no text. -/
  | noSecret (received : String)
  /-- The record is given by something that is no text. -/
  | ownerless (received : String)
  deriving DecidableEq, Repr

/-- How it is told that no key is derived from what was received for the secret. -/
def noSecret (received : String) : String :=
  "The \"ikm\" argument must be of type string or an instance of SecretKeyObject, ArrayBuffer, "
    ++ "TypedArray, DataView, or Buffer. Received " ++ received

/-- How it is told that no key is derived for what was received for the record. -/
def noKey (received : String) : String :=
  "The \"salt\" argument must be of type string or an instance of ArrayBuffer, TypedArray, "
    ++ "DataView, or Buffer. Received " ++ received

/-- The wording of an encryption fault. -/
def EncryptionFault.message : EncryptionFault → String
  | invalidNonce => "Invalid initialization vector"
  | noSecret received => Field.noSecret received
  | ownerless received => noKey received
  | noText received =>
    "The \"data\" argument must be of type string or an instance of Buffer, TypedArray, or "
      ++ "DataView. Received " ++ received

/-- The wording of a decryption fault that the cipher found; the others were found before it. -/
def DecryptionFault.message? : DecryptionFault → Option String
  | unauthentic => some "Unsupported state or unable to authenticate data"
  | noSecret received => some (Field.noSecret received)
  | ownerless received => some (noKey received)
  | unmarked | unowned | truncated => none

/-- The bytes of the key of a record. -/
def key (secret entity : String) : Bytes :=
  Sha256.derive (Text.Utf8.encode secret) (Text.Utf8.encode entity) (Text.Utf8.encode purpose)

/-- The block cipher of a record. -/
def cipher (secret entity : String) : Aes.Block → Aes.Block :=
  let keys := Aes.expand (key secret entity)
  fun b => Aes.encryptWith keys b

/-- The cipher takes nonces of these lengths. -/
def isNonce (nonce : Bytes) : Bool := 0 < nonce.length && nonce.length ≤ 128

/-- The bytes of a nonce and a wrapped text, in their order in the stored form. -/
def layout (nonce : Bytes) (w : Gcm.Wrapped) : Bytes := nonce ++ w.tag ++ w.ciphertext

/-- The stored form of bytes. -/
def stored (payload : Bytes) : String := marker ++ Text.Base64.encode payload

/-- The stored form of a text that belongs to the record `entity`. -/
def encrypt (secret entity : String) (nonce : Bytes) (text : String) :
    Except EncryptionFault String :=
  if isNonce nonce then
    .ok (stored (layout nonce
      (Gcm.wrap (cipher secret entity) nonce (Text.Utf8.encode entity) (Text.Utf8.encode text))))
  else .error .invalidNonce

/-- The bytes of a text after the marker. -/
def payload (value : String) : Bytes :=
  Text.Base64.decode (String.ofList (value.toList.drop marker.toList.length))

/-- The bytes of a stored form: it is marked, and they have room for a nonce and a tag. -/
def storedBytes (value : String) : Except DecryptionFault Bytes :=
  if !isMarked value then .error .unmarked
  else if (payload value).length < nonceLength + tagLength then .error .truncated
  else .ok (payload value)

/-- The text that the bytes of a stored form encrypt. -/
def opened (secret entity : String) (bytes : Bytes) : Except DecryptionFault String :=
  let w : Gcm.Wrapped :=
    { tag := (bytes.drop nonceLength).take tagLength
      ciphertext := bytes.drop (nonceLength + tagLength) }
  match Gcm.unwrap? (cipher secret entity) (bytes.take nonceLength) (Text.Utf8.encode entity) w with
  | some text => .ok (Text.Utf8.decode text)
  | none => .error .unauthentic

/-- The text of a stored form that belongs to the record `entity`. -/
def decrypt (secret entity value : String) : Except DecryptionFault String :=
  match storedBytes value with
  | .ok bytes => opened secret entity bytes
  | .error fault => .error fault

end Field

end Depository
