import Depository.Cipher.Sha256
import Depository.Text.Base64
import Depository.Text.Blank

/-!
# Fingerprints of host keys

A fingerprint is `SHA256:` and the unpadded Base64 text of the digest of a key.

* `HostKey.fingerprint` — the fingerprint of a key;
* `HostKey.normalize` — a pinned fingerprint as it is compared: without blanks around it, with the
  mark in upper case or added, and without padding.
-/

namespace Depository

namespace HostKey

/-- What a fingerprint begins with. -/
def mark : String := "SHA256:"

/-- The fingerprint of a key. -/
def fingerprint (key : Bytes) : String :=
  mark ++ Text.Base64.encodeUnpadded (Sha256.digestBytes key)

/-- The text after the mark in any letter case, or the whole text if it does not begin with it. -/
def withoutMark (cs : List Char) : List Char :=
  let n := mark.toList.length
  if (cs.take n).map Char.toUpper = mark.toList then cs.drop n else cs

/-- A pinned fingerprint as it is compared. -/
def normalize (pinned : String) : String :=
  let digest := withoutMark (Text.strip Text.isBlank pinned.toList)
  mark ++ String.ofList (Text.stripEnd (· == '=') digest)

/-- A key has a pinned fingerprint. -/
def accepts (pinned : String) (key : Bytes) : Bool := fingerprint key == normalize pinned

end HostKey

end Depository
