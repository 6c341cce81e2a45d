import Depository.Schema.Checked
import Depository.Text.Units
import Depository.Text.Uuid

/-!
# Readers of submitted values

A reader takes a value that may be missing and checks it.  Missing and null are told apart: a
default stands in for a missing value only, while an optional part may be either.

* `Reader` — the type;
* `string`, `boolean`, `integer`, `option`, `object` — the kinds;
* `Reader.orDefault`, `Reader.orElse` — what stands in for a missing part, or a missing or null one;
* `field` — the reading of one member.
-/

namespace Depository

namespace Schema

/-- A check of a value that may be missing. -/
abbrev Reader (α : Type) := Option Json → Checked α

/-- What is wrong with a value that was to be of the kind `expected`. -/
def mismatch {α : Type} (expected : Json.Kind) : Reader α
  | none => .problem .missing
  | some v => .problem (.wrongKind expected v.kind)

/-- A text. -/
def string : Reader String
  | some (.string s) => .valid s
  | v => mismatch .string v

/-- A boolean. -/
def boolean : Reader Bool
  | some (.bool b) => .valid b
  | v => mismatch .boolean v

/-- Any number. -/
def number : Reader Number
  | some (.number .nan) => .problem (.wrongKind .number .notANumber)
  | some (.number n) => .valid n
  | v => mismatch .number v

/-- A number without a fraction. -/
def integer : Reader Int := fun v =>
  match number v with
  | .valid n =>
    match n.toInt? with
    | some i => .valid i
    | none => .problem (.wrongKind .integer .float)
  | .invalid issues => .invalid issues

/-- The members of an object. -/
def object : Reader Json
  | some (.object members) => .valid (.object members)
  | v => mismatch .object v

/-- The entry of a table of options whose name the value is. -/
def choose {α : Type} (table : List (String × α)) (received : String) : Checked α :=
  match table.lookup received with
  | some a => .valid a
  | none => .problem (.unknownOption (table.map Prod.fst) received)

/-- One of the options of a table, by its name.  Where `numbers` holds, a number counts as a text
that is none of them. -/
def option {α : Type} (table : List (String × α)) (numbers : Bool) : Reader α
  | none => .problem .missing
  | some (.string s) => choose table s
  | some (.number .nan) => .problem (.noOption (table.map Prod.fst) .notANumber)
  | some (.number n) =>
    if numbers then choose table n.text else .problem (.noOption (table.map Prod.fst) .number)
  | some v => .problem (.noOption (table.map Prod.fst) v.kind)

/-- A text with at least `least` units, and `p` for a shorter one. -/
def Reader.atLeast (least : Nat) (p : Problem) (r : Reader String) : Reader String := fun v =>
  match r v with
  | .valid s => if least ≤ Text.unitCount s then .valid s else .problem p
  | .invalid issues => .invalid issues

/-- A text that is a UUID, and `p` for another one. -/
def Reader.uuid (p : Problem) (r : Reader String) : Reader String := fun v =>
  match r v with
  | .valid s => if Text.isUuid s then .valid s else .problem p
  | .invalid issues => .invalid issues

variable {α : Type}

/-- The reader with its own problem for a missing value. -/
def Reader.orProblem (p : Problem) (r : Reader α) : Reader α
  | none => .problem p
  | v => r v

/-- The reader with a value for a missing one. -/
def Reader.orDefault (value : α) (r : Reader α) : Reader α
  | none => .valid value
  | v => r v

/-- The reader with a value for one that is missing or null. -/
def Reader.orElse (value : α) (r : Reader α) : Reader α
  | none => .valid value
  | some .null => .valid value
  | v => r v

/-- The reader of a value that may be missing. -/
def Reader.optional (r : Reader α) : Reader (Option α)
  | none => .valid none
  | v => (r v).map some

/-- The member `key` of an object. -/
def field (o : Json) (key : String) (r : Reader α) : Checked α := (r (o.get? key)).under key

end Schema

end Depository
