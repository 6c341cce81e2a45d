import Depository.Probe.Check

/-!
# Laws for programs

What is to be shown of a program on its way is often of one form: something is known before a step,
the step has to meet something, and something is known after it.  A law says that for each kind of
step, once for all programs, and that a program obeys it is a recursion on the program.  It follows
the way in which programs are put together, so that the programs of the backends are taken apart as
they are written.

* `Law`, `Check.Obeys` — the laws, and the programs that obey one;
* `Check.Leads` — what has to hold after a program for another one to obey the law after it;
* `Check.obeys_bind`, `Check.obeys_attempt`, `Check.obeys_ensure` — programs that are put together,
  and `Check.obeys_run`, `Check.obeys_ask`, `Check.obeys_request` — single calls.
-/

namespace Depository

/-- What the steps of a program have to meet, where `σ` is what is known before and after a step.
Each part is given what has to hold of what is known after the step. -/
structure Law (σ : Type) where
  perform : Call → σ → (σ → Prop) → Prop
  /-- What is known after a call that is waited for may depend on what the call came to. -/
  await : Call → σ → (Except Trouble Json → σ → Prop) → Prop
  arrange : Option Call → σ → (σ → Prop) → Prop
  look : σ → (Bool → σ → Prop) → Prop

namespace Check

variable {σ α β : Type} {L : Law σ} {x : σ}

/-- Where `x` is known each step of the program meets the law, and `K` holds of what the program
comes to and of what is known then.  What comes of a call that is answered at once, and which id is
taken, is left open. -/
def Obeys (L : Law σ) (K : Except Trouble α → σ → Prop) : Check α → σ → Prop
  | done outcome, x => K outcome x
  | perform call next, x => L.perform call x fun y => ∀ r, (next r).Obeys L K y
  | await call next, x => L.await call x fun reply y => (next reply).Obeys L K y
  | arrange release next, x => L.arrange release x (next.Obeys L K)
  | look next, x => L.look x fun told y => (next told).Obeys L K y
  | draw next, x => ∀ id, (next id).Obeys L K x

/-- What has to hold of what a program comes to for `f` to obey the law after it: trouble is left as
it is. -/
def Leads (L : Law σ) (f : α → Check β) (K : Except Trouble β → σ → Prop) :
    Except Trouble α → σ → Prop
  | .ok a, x => (f a).Obeys L K x
  | .error t, x => K (.error t) x

theorem obeys_bind {c : Check α} {f : α → Check β} {K : Except Trouble β → σ → Prop} :
    (c >>= f).Obeys L K x ↔ c.Obeys L (Leads L f K) x := by
  show (c.bind f).Obeys L K x ↔ _
  induction c generalizing x with
  | done outcome => cases outcome <;> rfl
  | perform call next ih => simp only [bind, Obeys, ih]
  | await call next ih => simp only [bind, Obeys, ih]
  | arrange release next ih =>
    simp only [bind, Obeys]
    rw [funext fun y => propext (ih (x := y))]
  | look next ih => simp only [bind, Obeys, ih]
  | draw next ih => simp only [bind, Obeys, ih]

theorem obeys_attempt {c : Check α} {K : Except Trouble (Except Trouble α) → σ → Prop} :
    c.attempt.Obeys L K x ↔ c.Obeys L (fun outcome => K (.ok outcome)) x := by
  induction c generalizing x with
  | done outcome => rfl
  | perform call next ih => simp only [attempt, Obeys, ih]
  | await call next ih => simp only [attempt, Obeys, ih]
  | arrange release next ih =>
    simp only [attempt, Obeys]
    rw [funext fun y => propext (ih (x := y))]
  | look next ih => simp only [attempt, Obeys, ih]
  | draw next ih => simp only [attempt, Obeys, ih]

/-- A program with a cleanup: the cleanup starts with what is known at the end of the program,
whatever came of it. -/
theorem obeys_ensure {body : Check α} {cleanup : Check Unit} {K : Except Trouble α → σ → Prop} :
    (ensure body cleanup).Obeys L K x ↔
      body.Obeys L (fun outcome => cleanup.Obeys L fun cleaned =>
        K (cleaned.bind fun _ => outcome)) x := by
  rw [ensure, obeys_bind, obeys_attempt]
  refine iff_of_eq (congrArg (fun after => body.Obeys L after x) ?_)
  funext outcome y
  refine propext (obeys_bind.trans (iff_of_eq (congrArg (fun after => cleanup.Obeys L after y) ?_)))
  funext cleaned
  cases cleaned <;> rfl

theorem obeys_run {call : Call} {K : Except Trouble Unit → σ → Prop} :
    (run call).Obeys L K x ↔ L.perform call x fun y => ∀ r, K r y := Iff.rfl

theorem obeys_ask {call : Call} {K : Except Trouble Json → σ → Prop} :
    (ask call).Obeys L K x ↔ L.await call x K := Iff.rfl

theorem obeys_request {call : Call} {K : Except Trouble Unit → σ → Prop} :
    (request call).Obeys L K x ↔ L.await call x fun reply => K (reply.map fun _ => ()) := by
  rw [request, obeys_bind, obeys_ask]
  refine iff_of_eq (congrArg (L.await call x) ?_)
  funext reply
  cases reply <;> rfl

end Check

end Depository
