import Depository.Backend.Secret
import Depository.Backend.Validation

/-!
# Variants

A variant is a backend with a configuration of it.

* `Variant.parse` — the variant of a submitted configuration, and `Variant.payload` the other way;
* `Variant.hide`, `Variant.reveal`, `Variant.protect` — what is done with its secrets;
* `Variant.merge` — an update of a variant;
* `Variant.validate` — the rules of its backend.
-/

namespace Depository

/-- A backend with its configuration. -/
structure Variant where
  backend : Backend
  config : backend.Config

namespace Variant

/-- The name of its backend. -/
def typeName (v : Variant) : String := v.backend.name

/-- The configuration as it is stored and shown. -/
def payload (v : Variant) : Json := v.backend.writeConfig v.config

/-- The submitted configuration of a backend, which may be missing only for local disk. -/
def required (b : Backend) : Option Json → Except Failure Json
  | none | some .null =>
    match b with
    | .localDisk => .ok (.object [])
    | b => .error (.invalid (.payloadMissing b))
  | some v => .ok v

/-- The variant of a submitted configuration.  Its issues are told with the key under which it was
submitted. -/
def parse (b : Backend) (submitted : Option Json) : Except Failure Variant := do
  let v ← required b submitted
  match (b.readConfig v).under b.payloadKey with
  | .valid c => return ⟨b, c⟩
  | .invalid issues => .error (.ofIssues issues)

/-- The variant of a submitted configuration for the backend of a name; none if there is no such
backend. -/
def parseNamed (name : String) (submitted : Option Json) : Except Failure (Option Variant) :=
  match Backend.ofName? name with
  | some b => (parse b submitted).map some
  | none => .ok none

/-- The variant with every secret empty. -/
def hide (v : Variant) : Variant := { v with config := Secret.hideAll v.backend.secrets v.config }

/-- The variant with every stored secret decrypted, for the record that owns it. -/
def reveal (key : String) (owner : Cell) (v : Variant) : Except Field.DecryptionFault Variant :=
  (Secret.revealAll key owner v.backend.secrets v.config).map fun c => ⟨v.backend, c⟩

/-- The outcome of encrypting the secrets of a variant. -/
structure Protection where
  variant : Variant
  used : Nat
  fault : Option Field.EncryptionFault

/-- Encrypts the plain secrets for the record that owns them, with the nonces from number `used`
on. -/
def protect (key : String) (owner : Cell) (nonces : Nat → Bytes) (used : Nat) (v : Variant) :
    Protection :=
  let p := Secret.protectAll key owner nonces used v.backend.secrets v.config
  ⟨⟨v.backend, p.config⟩, p.used, p.fault⟩

/-- A variant after an update. -/
structure Merged where
  variant : Variant
  /-- The update is of another backend, and took the place of the whole variant. -/
  replaced : Bool

/-- The variant `current` after the update `incoming`: an update of another backend takes its place,
one of the same backend overwrites its configuration except the secrets that the update leaves
empty. -/
def merge (current incoming : Variant) : Merged :=
  if h : current.backend = incoming.backend then
    let config := Secret.keepAll incoming.backend.secrets (h ▸ current.config) incoming.config
    ⟨⟨incoming.backend, config⟩, false⟩
  else ⟨incoming, true⟩

/-- The rules of a variant, which is new where `isNew` holds. -/
def validate (v : Variant) (isNew : Bool) : Except Failure Unit :=
  v.backend.validate v.config isNew

end Variant

end Depository
