import Depository.Probe.Call

/-!
# Programs of connection tests

A connection test is a program of calls.  Between its calls it can arrange what is called when it is
told to stop, and it can look whether it has been told.

* `Check` — the programs, which come to a value or to trouble;
* `Check.run`, `Check.ask` — a call that is answered at once, and one that is waited for;
* `Check.attempt`, `Check.ensure` — trouble as a value, and what is done whether there is trouble or
  not.
-/

namespace Depository

/-- A program that comes to a value of `α` or to trouble. -/
inductive Check (α : Type) : Type where
  | done (outcome : Except Trouble α)
  /-- Makes a call that is answered at once. -/
  | perform (call : Call) (next : Except Trouble Unit → Check α)
  /-- Makes a call and waits for what comes of it. -/
  | await (call : Call) (next : Except Trouble Json → Check α)
  /-- Arranges the call to make when the program is told to stop, or takes back what is arranged. -/
  | arrange (release : Option Call) (next : Check α)
  /-- Looks whether the program has been told to stop. -/
  | look (next : Bool → Check α)
  /-- Takes a fresh id. -/
  | draw (next : String → Check α)

namespace Check

variable {α β : Type}

/-- One program after another, unless there is trouble. -/
def bind (c : Check α) (f : α → Check β) : Check β :=
  match c with
  | done (.ok a) => f a
  | done (.error t) => done (.error t)
  | perform call next => perform call fun r => (next r).bind f
  | await call next => await call fun r => (next r).bind f
  | arrange release next => arrange release (next.bind f)
  | look next => look fun b => (next b).bind f
  | draw next => draw fun s => (next s).bind f

instance : Monad Check where
  pure a := done (.ok a)
  bind := bind

/-- The outcome of a program, trouble or not, as its value. -/
def attempt : Check α → Check (Except Trouble α)
  | done outcome => done (.ok outcome)
  | perform call next => perform call fun r => (next r).attempt
  | await call next => await call fun r => (next r).attempt
  | arrange release next => arrange release next.attempt
  | look next => look fun b => (next b).attempt
  | draw next => draw fun s => (next s).attempt

/-- The program that is in trouble. -/
def fail (t : Trouble) : Check α := done (.error t)

/-- The program that fails with a message. -/
def failWith (message : String) : Check α := fail (.ofMessage message)

/-- A call that is answered at once. -/
def run (call : Call) : Check Unit := perform call done

/-- A call that is waited for. -/
def ask (call : Call) : Check Json := await call done

/-- A call that is waited for, whose answer does not matter. -/
def request (call : Call) : Check Unit := do let _ ← ask call

/-- Arranges a call for when the program is told to stop. -/
def whenStopped (release : Call) : Check Unit := arrange (some release) (done (.ok ()))

/-- Takes back what was arranged. -/
def noLonger : Check Unit := arrange none (done (.ok ()))

/-- Runs a program unless this one has been told to stop. -/
def unlessStopped (c : Check Unit) : Check Unit := look fun b => if b then done (.ok ()) else c

/-- A fresh id. -/
def freshId : Check String := draw fun s => done (.ok s)

/-- Runs `body` and then `cleanup`, whatever came of `body`; that is the outcome, unless the cleanup
is in trouble itself. -/
def ensure (body : Check α) (cleanup : Check Unit) : Check α := do
  let outcome ← body.attempt
  cleanup
  done outcome

@[simp] theorem pure_bind (a : α) (f : α → Check β) : (pure a : Check α) >>= f = f a := rfl

@[simp] theorem fail_bind (t : Trouble) (f : α → Check β) : (fail t : Check α) >>= f = fail t := rfl

end Check

end Depository
