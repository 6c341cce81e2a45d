import Depository.Log
import Depository.Service.Tables
import Depository.Storage.Basic

/-!
# Operations

An operation of the service is a program of instructions.  An instruction asks something that the
service relies on: a table, the audit log, the source of ids, the cipher, a backend or the log.

* `Instruction` — the instructions, and `Instruction.Answer`, what each is answered;
* `Operation` — the programs, which come to a value or to a failure;
* `Operation.ask`, `Operation.fail`, `Operation.attempt` — one instruction, a failure, and a failure
  as a value;
* `Operation.told` — a cell in the words of the log.
-/

namespace Depository

/-- Something that is asked of what the service relies on. -/
inductive Instruction where
  | findStorage (id : Cell)
  | listStorages (workspaceId : Cell)
  | saveStorage (row : Row)
  | deleteStorage (id : Cell)
  | findRole (workspaceId userId : Cell)
  | findDatabases (storageId : Cell)
  | saveAudit (entry : Row)
  /-- Takes a fresh id. -/
  | drawId
  /-- Encrypts the secrets of a variant for the record that owns it. -/
  | protect (owner : Cell) (variant : Variant)
  /-- Tests the connection of a variant; `owner` is the record that owns it, if there is one. -/
  | probe (owner : Cell) (variant : Variant)
  | log (line : LogLine)

/-- What an instruction is answered. -/
@[reducible] def Instruction.Answer : Instruction → Type
  | findStorage _ => Option Row
  | listStorages _ => List Row
  | saveStorage _ => Row
  | deleteStorage _ => Unit
  | findRole _ _ => Cell
  | findDatabases _ => List Cell
  | saveAudit _ => Row
  | drawId => String
  | protect _ _ => Variant
  | probe _ _ => Unit
  | log _ => Unit

/-- The instruction asks a table. -/
def Instruction.asksTable : Instruction → Bool
  | findStorage _ | listStorages _ | saveStorage _ | deleteStorage _ | findRole _ _
  | findDatabases _ | saveAudit _ => true
  | drawId | protect _ _ | probe _ _ | log _ => false

/-- A program that comes to a value of `α` or to a failure. -/
inductive Operation (α : Type) : Type where
  | done (outcome : Except Failure α)
  | ask (i : Instruction) (next : Except Failure i.Answer → Operation α)

namespace Operation

variable {α β : Type}

/-- One program after another, unless there is a failure. -/
def bind (o : Operation α) (f : α → Operation β) : Operation β :=
  match o with
  | done (.ok a) => f a
  | done (.error e) => done (.error e)
  | ask i next => ask i fun r => (next r).bind f

instance : Monad Operation where
  pure a := done (.ok a)
  bind := bind

/-- The program of one instruction. -/
def request (i : Instruction) : Operation i.Answer := ask i done

/-- The program that fails. -/
def fail (e : Failure) : Operation α := done (.error e)

/-- The program that comes to an outcome without any instruction. -/
def lift (outcome : Except Failure α) : Operation α := done outcome

/-- The outcome of a program, failure or not, as its value. -/
def attempt : Operation α → Operation (Except Failure α)
  | done outcome => done (.ok outcome)
  | ask i next => ask i fun r => (next r).attempt

/-- Fails unless a condition holds. -/
def require (condition : Bool) (e : Failure) : Operation Unit :=
  if condition then pure () else fail e

/-- What a cell has as it is told; a value that cannot be told fails. -/
def told (c : Cell) : Operation String :=
  match c.plainText? with
  | some text => pure text
  | none => fail (.malformed .noPlainText)

/-- Writes a line of the log. -/
def log (line : LogLine) : Operation Unit := request (.log line)

@[simp] theorem pure_bind (a : α) (f : α → Operation β) : (pure a : Operation α) >>= f = f a := rfl

@[simp] theorem fail_bind (e : Failure) (f : α → Operation β) :
    (fail e : Operation α) >>= f = fail e := rfl

theorem bind_pure (o : Operation α) : o.bind (fun a => done (.ok a)) = o := by
  induction o with
  | done outcome => cases outcome <;> rfl
  | ask i next ih => simp only [bind, ih]

theorem bind_bind {γ : Type} (o : Operation α) (f : α → Operation β) (g : β → Operation γ) :
    (o.bind f).bind g = o.bind fun a => (f a).bind g := by
  induction o with
  | done outcome => cases outcome <;> rfl
  | ask i next ih => simp only [bind, ih]

end Operation

end Depository
