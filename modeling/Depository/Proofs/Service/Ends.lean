import Depository.Service.World

/-!
# How operations end

An operation that runs alone ends with a value or with a failure, and what is claimed of its end
depends on the tables that it starts from and on the number of ids that were taken before, and on
nothing else of the world: not on the log, nor on how many questions were asked.  Any question to a
table may fail, so a claim about failures has to hold wherever there is a question.

* `Operation.Ends` — from tables and a number of ids, `ok` holds of the end with a value and
  `failed` of the end with a failure;
* `Operation.Reads` — a special case: whatever the end, nothing was changed;
* `Operation.Ends.bind`, `Operation.Reads.bind` — one operation after another.
-/

namespace Depository

/-- The world has these tables, and so many ids were taken. -/
structure World.At (w : World) (t : Tables) (n : Nat) : Prop where
  tables : w.tables = t
  ids : w.ids = n

theorem World.at_self (w : World) : w.At w.tables w.ids := ⟨rfl, rfl⟩

namespace Operation

variable {α β : Type} {env : Environment} {t : Tables} {n : Nat}

/-- From tables `t` and after `n` ids the operation ends with a value where `ok` holds, or with a
failure where `failed` holds. -/
def Ends (env : Environment) (t : Tables) (n : Nat) (o : Operation α)
    (failed : Failure → World → Prop) (ok : α → World → Prop) : Prop :=
  ∀ w : World, w.At t n →
    match o.run env w with
    | (.ok a, w) => ok a w
    | (.error e, w) => failed e w

/-- The operation changes no table and takes no id, and `P` holds of its value, if it comes to
one. -/
def Reads (env : Environment) (t : Tables) (n : Nat) (o : Operation α) (P : α → Prop) : Prop :=
  o.Ends env t n (fun _ w => w.At t n) (fun a w => w.At t n ∧ P a)

variable {o : Operation α} {f : α → Operation β} {F F' : Failure → World → Prop}
  {S S' : α → World → Prop} {P P' : α → Prop} {Q : β → World → Prop}

/-! ### Ends -/

theorem Ends.run (h : o.Ends env t n F S) {w : World} (hw : w.At t n) :
    (∃ a, (o.run env w).1 = .ok a ∧ S a (o.run env w).2) ∨
      ∃ e, (o.run env w).1 = .error e ∧ F e (o.run env w).2 := by
  have hend := h w hw
  rcases ho : o.run env w with ⟨a | a, w'⟩ <;> rw [ho] at hend
  · exact .inr ⟨a, rfl, hend⟩
  · exact .inl ⟨a, rfl, hend⟩

/-- What is claimed of ends with a value holds of a run that came to one. -/
theorem Ends.of_ok (h : o.Ends env t n F S) {w : World} (hw : w.At t n) {a : α}
    (ha : (o.run env w).1 = .ok a) : S a (o.run env w).2 := by
  obtain ⟨b, hb, hS⟩ | ⟨e, he, -⟩ := h.run hw
  · exact Except.ok.inj (hb.symm.trans ha) ▸ hS
  · cases ha.symm.trans he

/-- What is claimed of ends with a failure holds of a run that came to one. -/
theorem Ends.of_error (h : o.Ends env t n F S) {w : World} (hw : w.At t n) {e : Failure}
    (he : (o.run env w).1 = .error e) : F e (o.run env w).2 := by
  obtain ⟨a, ha, -⟩ | ⟨e', he', hF⟩ := h.run hw
  · cases ha.symm.trans he
  · exact Except.error.inj (he'.symm.trans he) ▸ hF

theorem Ends.mono (h : o.Ends env t n F S) (hfailed : ∀ e w, F e w → F' e w)
    (hok : ∀ a w, S a w → S' a w) : o.Ends env t n F' S' := by
  intro w hw
  have hend := h w hw
  rcases ho : o.run env w with ⟨a | a, w'⟩ <;> rw [ho] at hend
  · exact hfailed _ _ hend
  · exact hok _ _ hend

theorem ends_pure {a : α} (h : ∀ w : World, w.At t n → S a w) :
    (pure a : Operation α).Ends env t n F S := h

theorem ends_fail {e : Failure} (h : ∀ w : World, w.At t n → F e w) :
    (fail e : Operation α).Ends env t n F S := h

/-- Every operation ends. -/
theorem ends_true : o.Ends env t n (fun _ _ => True) (fun _ _ => True) := by
  intro w _
  rcases o.run env w with ⟨a | a, w'⟩ <;> trivial

/-- **One operation after another** ends as the second one does from where the first one ended. -/
theorem Ends.bind (h : o.Ends env t n F S)
    (hf : ∀ a w, S a w → (f a).Ends env w.tables w.ids F Q) :
    (o >>= f).Ends env t n F Q := by
  intro w hw
  have hend := h w hw
  rw [run_bind]
  rcases ho : o.run env w with ⟨a | a, w'⟩ <;> rw [ho] at hend
  · exact hend
  · exact hf a w' hend w' w'.at_self

/-- An outcome that is looked at is never a failure of its own. -/
theorem Ends.attempt (h : o.Ends env t n F S) :
    o.attempt.Ends env t n (fun _ _ => False) fun r w =>
      match r with
      | .ok a => S a w
      | .error e => F e w := by
  intro w hw
  have hend := h w hw
  rw [run_attempt]
  rcases ho : o.run env w with ⟨a | a, w'⟩ <;> rw [ho] at hend <;> exact hend

/-- What holds of both ends of an operation holds after its outcome was looked at. -/
theorem Ends.attempt_same {I : World → Prop} (h : o.Ends env t n (fun _ => I) fun _ => I) :
    o.attempt.Ends env t n F fun _ => I := by
  refine Ends.mono h.attempt (fun _ _ => False.elim) ?_
  rintro (e | a) w hw <;> exact hw

/-- An instruction fails in the tables, with nothing done, or it is answered. -/
theorem ends_request {i : Instruction} {F : Failure → World → Prop} {S : i.Answer → World → Prop}
    (hfault : ∀ k m (w : World), i.asksTable = true → env.fault k i = some m → w.At t n →
      F (.fault m) w)
    (hanswer : ∀ w : World, w.At t n →
      match env.answer w i with
      | (.ok a, w) => S a w
      | (.error e, w) => F e w) :
    (request i).Ends env t n F S := by
  intro w hw
  -- counting the instruction changes no table and takes no id
  have hcounted : ({ w with instructions := w.instructions + 1 } : World).At t n := ⟨hw.1, hw.2⟩
  have hrun : (request i).run env w = env.perform w i := rfl
  rw [hrun, Environment.perform]
  cases hfail : env.faultOf w i with
  | none =>
    have hend := hanswer _ hcounted
    dsimp only
    rcases ha : env.answer { w with instructions := w.instructions + 1 } i with ⟨a | a, w'⟩ <;>
      rw [ha] at hend <;> exact hend
  | some m =>
    rw [Environment.faultOf] at hfail
    by_cases hasks : i.asksTable = true
    · rw [if_pos hasks] at hfail
      exact hfault _ m _ hasks hfail hcounted
    · rw [if_neg hasks] at hfail
      cases hfail

theorem ends_lift {outcome : Except Failure α} {P : α → Prop} (h : ∀ a, outcome = .ok a → P a) :
    (lift outcome).Ends env t n (fun _ _ => True) fun a _ => P a := by
  intro w _
  cases outcome with
  | ok a => exact h a rfl
  | error e => trivial

/-! ### Operations that only read -/

/-- What reads comes before anything else, if failing with nothing done is allowed. -/
theorem Reads.bind (h : o.Reads env t n P) (hfailed : ∀ e w, World.At w t n → F e w)
    (hf : ∀ a, P a → (f a).Ends env t n F Q) : (o >>= f).Ends env t n F Q := by
  refine Ends.bind (Ends.mono h hfailed fun _ _ ha => ha) ?_
  rintro a w ⟨hw, ha⟩
  rw [hw.tables, hw.ids]
  exact hf a ha

theorem Reads.andThen {P : α → Prop} {Q : β → Prop} (h : o.Reads env t n P)
    (hf : ∀ a, P a → (f a).Reads env t n Q) : (o >>= f).Reads env t n Q :=
  Reads.bind h (fun _ _ hw => hw) hf

theorem Reads.mono (h : o.Reads env t n P) (hP : ∀ a, P a → P' a) : o.Reads env t n P' :=
  Ends.mono h (fun _ _ hw => hw) fun a _ ha => ⟨ha.1, hP a ha.2⟩

theorem reads_pure {a : α} (h : P a) : (pure a : Operation α).Reads env t n P :=
  ends_pure fun _ hw => ⟨hw, h⟩

theorem reads_fail {e : Failure} : (fail e : Operation α).Reads env t n P :=
  ends_fail fun _ hw => hw

theorem reads_lift (outcome : Except Failure α) :
    (lift outcome).Reads env t n fun a => outcome = .ok a := by
  intro w hw
  cases outcome with
  | ok a => exact ⟨hw, rfl⟩
  | error e => exact hw

theorem reads_require (condition : Bool) (e : Failure) :
    (require condition e).Reads env t n fun _ => condition = true := by
  cases condition with
  | true => exact reads_pure rfl
  | false => exact reads_fail

theorem told_ofText (s : String) : told (.ofText s) = pure s := rfl

end Operation

end Depository
