import Depository.Probe.Test

/-!
# Connection tests of objects

A configuration is an object that can be changed in place, and whoever asks for a test of it goes on
using it.  So a test makes a copy, decrypts the secrets of the copy one after another in place, and
tests what the copy holds then.

* `Objects` — objects by their numbers, `Objects.put` and `Objects.copy`;
* `Objects.revealAt` — decrypts the secrets of an object in place;
* `Probe.testObject` — the test of the configuration that an object holds.
-/

namespace Depository

/-- Objects that hold configurations. -/
structure Objects (C : Type) where
  /-- What the object of a number holds. -/
  get : Nat → C
  /-- The number of the next object. -/
  next : Nat

namespace Objects

variable {C : Type}

/-- The objects after one was changed. -/
def put (n : Nat) (c : C) (o : Objects C) : Objects C :=
  { o with get := fun k => if k = n then c else o.get k }

/-- The objects with a copy of one. -/
def copy (n : Nat) (o : Objects C) : Objects C :=
  { o.put o.next (o.get n) with next := o.next + 1 }

/-- Decrypts the stored secrets of an object one after another in place, up to the first that is not
decrypted. -/
def revealAt (key : String) (owner : Cell) (n : Nat) :
    List (Secret C) → Objects C → Except Field.DecryptionFault Unit × Objects C
  | [], o => (.ok (), o)
  | f :: rest, o =>
    match Field.reveal (.ofText key) owner (f.get (o.get n)) with
    | .ok text => revealAt key owner n rest (o.put n (f.set text (o.get n)))
    | .error fault => (.error fault, o)

end Objects

namespace Probe

/-- The test of the configuration that an object holds, and the objects after it. -/
def testObject (s : Settings) (directory : String) (limit : Number) (owner : Cell) (b : Backend)
    (n : Nat) (cancelled : Bool) (w : Circumstances) (o : Objects b.Config) :
    Report × Objects b.Config :=
  match (o.copy n).revealAt s.encryptionKey owner o.next b.secrets with
  | (.error fault, after) => (unrevealed owner fault, after)
  | (.ok (), after) => (testConfig s directory limit b (after.get o.next) cancelled w, after)

end Probe

end Depository
