import Depository.Probe.Test
import Depository.Service.Operation

/-!
# Running operations

An operation runs in an environment and changes a world.  The environment decides everything that
the service does not: the settings, the random values, which questions to tables fail, what comes of
connection tests and what others change in the tables while a test runs.  A question that fails has
no effect.

* `World` — the tables, and what has been done and used;
* `Environment` — what decides;
* `Environment.perform` — the answer to one instruction, and the world after it;
* `Operation.run` — the outcome of an operation, and the world after it.
-/

namespace Depository

/-- A change of a table. -/
inductive Effect where
  | savedStorage (row : Row)
  | savedAudit (entry : Row)
  | deletedStorage (id : Cell)

/-- What an operation changes. -/
structure World where
  tables : Tables
  /-- The changes of tables in order. -/
  effects : List Effect
  /-- The calls to backends in order. -/
  calls : List Call
  /-- The lines of the log in order. -/
  log : List LogLine
  /-- The number of ids taken. -/
  ids : Nat
  /-- The number of nonces taken. -/
  nonces : Nat
  /-- The number of instructions performed. -/
  instructions : Nat

/-- What decides about an operation. -/
structure Environment where
  settings : Settings
  /-- The directory of local storages. -/
  directory : String
  /-- The id of a number. -/
  freshId : Nat → String
  /-- The nonce of a number. -/
  nonce : Nat → Bytes
  /-- Why the question of a number fails, if it does. -/
  fault : Nat → Instruction → Option String
  /-- The caller gave up before any connection test. -/
  cancelled : Bool
  /-- What decides about connection tests. -/
  circumstances : Circumstances
  /-- What others have done to the tables when a connection test is over. -/
  meanwhile : Probe.Report → Tables → Tables

namespace World

/-- A world with nothing done yet. -/
def start (tables : Tables) : World := ⟨tables, [], [], [], 0, 0, 0⟩

/-- The world with a row saved. -/
def save (row : Row) (w : World) : World :=
  { w with tables := w.tables.save row, effects := w.effects ++ [.savedStorage row] }

/-- The world without the row of a storage. -/
def delete (id : Cell) (w : World) : World :=
  { w with tables := w.tables.delete id, effects := w.effects ++ [.deletedStorage id] }

/-- The world with an entry of the audit log. -/
def note (entry : Row) (w : World) : World :=
  { w with tables := w.tables.note entry, effects := w.effects ++ [.savedAudit entry] }

/-- The world with more lines of the log. -/
def write (lines : List LogLine) (w : World) : World := { w with log := w.log ++ lines }

end World

namespace Environment

variable (env : Environment)

/-- The id of a number in a world where ids have been taken. -/
def idFrom (w : World) (n : Nat) : String := env.freshId (w.ids + n)

/-- A row as it is saved: without an id it takes a fresh one. -/
def identify (row : Row) (w : World) : Row × World :=
  if row.isIdentified then (row, w)
  else (row.update ⟨[("id", .ofText (env.idFrom w 0))]⟩, { w with ids := w.ids + 1 })

/-- Encrypts the secrets of a variant. -/
def protect (owner : Cell) (v : Variant) (w : World) : Except Failure Variant × World :=
  let p := v.protect env.settings.encryptionKey owner env.nonce w.nonces
  let w := { w with nonces := p.used }
  match p.fault with
  | none => (.ok p.variant, w)
  | some fault =>
    (.error (.ofEncryption owner), w.write (LogLine.encryptionFailed? owner fault).toList)

/-- The report of a connection test. -/
def report (owner : Cell) (v : Variant) (w : World) : Probe.Report :=
  Probe.test env.settings env.directory owner v env.cancelled
    { env.circumstances with freshId := env.idFrom w }

/-- Tests a connection, while others may change the tables. -/
def probe (owner : Cell) (v : Variant) (w : World) : Except Failure Unit × World :=
  let r := env.report owner v w
  (r.outcome,
    { w with tables := env.meanwhile r w.tables, calls := w.calls ++ r.calls, log := w.log ++ r.log
             ids := w.ids + r.drawn })

/-- The rows of a workspace and all system rows, if they can be listed. -/
def listing (workspaceId : Cell) (t : Tables) : Except Failure (List Row) :=
  let rows := t.visibleIn workspaceId
  if Tables.canList rows then .ok rows else .error (.malformed .noPlainText)

/-- The answer to an instruction that does not fail in the tables, and the world after it. -/
def answer (w : World) : (i : Instruction) → Except Failure i.Answer × World
  | .findStorage id => (.ok (w.tables.find? id), w)
  | .listStorages workspaceId => (listing workspaceId w.tables, w)
  | .saveStorage row =>
    let (saved, w) := env.identify row w
    (.ok saved, w.save saved)
  | .deleteStorage id => (.ok (), w.delete id)
  | .findRole workspaceId userId => (.ok (w.tables.role workspaceId userId), w)
  | .findDatabases storageId => (.ok (w.tables.databasesOf storageId), w)
  | .saveAudit entry =>
    let (saved, w) := env.identify entry w
    (.ok saved, w.note saved)
  | .drawId => (.ok (env.idFrom w 0), { w with ids := w.ids + 1 })
  | .protect owner v => env.protect owner v w
  | .probe owner v => env.probe owner v w
  | .log line => (.ok (), w.write [line])

/-- Why an instruction fails in the tables, if it does. -/
def faultOf (w : World) (i : Instruction) : Option String :=
  if i.asksTable then env.fault w.instructions i else none

/-- The answer to an instruction, and the world after it. -/
def perform (w : World) (i : Instruction) : Except Failure i.Answer × World :=
  let counted := { w with instructions := w.instructions + 1 }
  match env.faultOf w i with
  | some message => (.error (.fault message), counted)
  | none => env.answer counted i

end Environment

namespace Operation

variable {α β : Type}

/-- The outcome of an operation, and the world after it. -/
def run (env : Environment) : Operation α → World → Except Failure α × World
  | done outcome, w => (outcome, w)
  | ask i next, w =>
    let (r, w) := env.perform w i
    (next r).run env w

theorem run_bind (env : Environment) (o : Operation α) (f : α → Operation β) (w : World) :
    (o >>= f).run env w =
      match o.run env w with
      | (.ok a, w) => (f a).run env w
      | (.error e, w) => (.error e, w) := by
  induction o generalizing w with
  | done outcome => cases outcome <;> rfl
  | ask i next ih => exact ih _ _

theorem run_attempt (env : Environment) (o : Operation α) (w : World) :
    o.attempt.run env w = (.ok (o.run env w).1, (o.run env w).2) := by
  induction o generalizing w with
  | done outcome => rfl
  | ask i next ih => exact ih _ _

end Operation

end Depository
