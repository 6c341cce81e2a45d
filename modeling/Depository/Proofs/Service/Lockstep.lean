import Depository.Proofs.Service.Agrees
import Depository.Proofs.Service.Asks

/-!
# Operations in lockstep

Two operations run in lockstep, each in a world of its own, if they come to values that belong
together, or to the same failure, and leave worlds that belong together.  What belongs together is
free at each end, so that one operation may follow another from wherever the worlds have parted.

* `Operation.Lockstep` — the judgement, and `Operation.Lockstep.bind`, one operation after another;
* `Operation.lockstep_self` — an operation runs in lockstep with itself, in one world;
* `World.Parts` — two worlds that differ in the rows of storages only;
* `Operation.Asks.lockstep` — **reports run in lockstep in such worlds**, and leave such worlds.
-/

namespace Depository

namespace Operation

variable {α β γ δ : Type} {env : Environment} {w w' : World}

/-- Both ends are with values, where `R` holds, or both are with the same failure, where `F`
holds. -/
def EndsAlike (F : World → World → Prop) (R : α → β → World → World → Prop) :
    Except Failure α × World → Except Failure β × World → Prop
  | (.ok a, v), (.ok b, v') => R a b v v'
  | (.error e, v), (.error e', v') => e = e' ∧ F v v'
  | _, _ => False

/-- From `w` and `w'` the operations come to values and worlds that `R` relates, or to the same
failure and worlds that `F` relates. -/
def Lockstep (env : Environment) (w w' : World) (o : Operation α) (p : Operation β)
    (F : World → World → Prop) (R : α → β → World → World → Prop) : Prop :=
  EndsAlike F R (o.run env w) (p.run env w')

variable {o : Operation α} {p : Operation β} {f : α → Operation γ} {g : β → Operation δ}
  {F F' : World → World → Prop} {R R' : α → β → World → World → Prop}
  {S : γ → δ → World → World → Prop}

/-! ### Rules -/

theorem EndsAlike.mono {x : Except Failure α × World} {y : Except Failure β × World}
    (h : EndsAlike F R x y) (hF : ∀ v v', F v v' → F' v v')
    (hR : ∀ a b v v', R a b v v' → R' a b v v') : EndsAlike F' R' x y := by
  obtain ⟨e | a, v⟩ := x <;> obtain ⟨e' | b, v'⟩ := y
  · exact ⟨h.1, hF _ _ h.2⟩
  · exact h.elim
  · exact h.elim
  · exact hR _ _ _ _ h

theorem Lockstep.mono (h : Lockstep env w w' o p F R) (hF : ∀ v v', F v v' → F' v v')
    (hR : ∀ a b v v', R a b v v' → R' a b v v') : Lockstep env w w' o p F' R' :=
  EndsAlike.mono h hF hR

/-- **One operation after another**: the second ones go on from where the first ones ended. -/
theorem Lockstep.bind (h : Lockstep env w w' o p F R)
    (hf : ∀ a b v v', R a b v v' → Lockstep env v v' (f a) (g b) F S) :
    Lockstep env w w' (o >>= f) (p >>= g) F S := by
  unfold Lockstep at h ⊢
  rw [run_bind, run_bind]
  rcases ho : o.run env w with ⟨e | a, v⟩ <;> rcases hp : p.run env w' with ⟨e' | b, v'⟩ <;>
    rw [ho, hp] at h
  · exact h
  · exact h.elim
  · exact h.elim
  · exact hf a b v v' h

theorem lockstep_lift {x : Except Failure α} {y : Except Failure β}
    (h : Outcomes (fun a b => R a b w w') x y) (hF : F w w') :
    Lockstep env w w' (lift x) (lift y) F R := by
  cases x <;> cases y
  · exact ⟨h, hF⟩
  · exact h.elim
  · exact h.elim
  · exact h

theorem lockstep_pure {a : α} {b : β} (h : R a b w w') :
    Lockstep env w w' (pure a : Operation α) (pure b : Operation β) F R := h

/-- **An operation runs in lockstep with itself.** -/
theorem lockstep_self (o : Operation α) (hF : ∀ v, F v v) :
    Lockstep env w w o o F fun a b v v' => a = b ∧ v = v' ∧ o.run env w = (.ok a, v) := by
  unfold Lockstep
  rcases o.run env w with ⟨e | a, v⟩
  · exact ⟨rfl, hF v⟩
  · exact ⟨rfl, rfl, rfl⟩

/-- Two questions fail in the tables, or both are answered. -/
theorem lockstep_request {i j : Instruction} {R : i.Answer → j.Answer → World → World → Prop}
    (hfault : env.faultOf w i = env.faultOf w' j)
    (hF : F { w with instructions := w.instructions + 1 }
      { w' with instructions := w'.instructions + 1 })
    (hanswer : EndsAlike F R (env.answer { w with instructions := w.instructions + 1 } i)
      (env.answer { w' with instructions := w'.instructions + 1 } j)) :
    Lockstep env w w' (request i) (request j) F R := by
  have hrun : ∀ (i : Instruction) (w : World), (request i).run env w = env.perform w i :=
    fun _ _ => rfl
  unfold Lockstep
  rw [hrun, hrun, Environment.perform, Environment.perform, ← hfault]
  cases env.faultOf w i with
  | some message => exact ⟨rfl, hF⟩
  | none => exact hanswer

end Operation

/-! ### Worlds that differ in rows of storages -/

/-- The worlds differ in the rows of storages only, which `D` relates. -/
structure World.Parts (D : List Row → List Row → Prop) (w w' : World) : Prop where
  storages : D w.tables.storages w'.tables.storages
  memberships : w.tables.memberships = w'.tables.memberships
  attachments : w.tables.attachments = w'.tables.attachments
  audit : w.tables.audit = w'.tables.audit
  calls : w.calls = w'.calls
  log : w.log = w'.log
  ids : w.ids = w'.ids
  nonces : w.nonces = w'.nonces
  instructions : w.instructions = w'.instructions

namespace World.Parts

variable {D : List Row → List Row → Prop} {env : Environment} {w w' : World}

theorem refl (hD : ∀ rows, D rows rows) (w : World) : w.Parts D w :=
  ⟨hD _, rfl, rfl, rfl, rfl, rfl, rfl, rfl, rfl⟩

/-- Both worlds count one more instruction. -/
theorem count (h : w.Parts D w') : World.Parts D { w with instructions := w.instructions + 1 }
    { w' with instructions := w'.instructions + 1 } :=
  { h with instructions := congrArg (· + 1) h.instructions }

theorem write (h : w.Parts D w') (lines : List LogLine) :
    (w.write lines).Parts D (w'.write lines) :=
  { h with log := congrArg (· ++ lines) h.log }

/-- The same entry is identified alike, and noted in both worlds. -/
theorem note (h : w.Parts D w') (env : Environment) (entry : Row) :
    (env.identify entry w).1 = (env.identify entry w').1 ∧
      ((env.identify entry w).2.note (env.identify entry w).1).Parts D
        ((env.identify entry w').2.note (env.identify entry w').1) := by
  have hid : env.idFrom w 0 = env.idFrom w' 0 := by
    rw [Environment.idFrom, Environment.idFrom, h.ids]
  rw [Environment.identify, Environment.identify, hid]
  split
  · exact ⟨rfl, { h with audit := congrArg (· ++ [entry]) h.audit }⟩
  · exact ⟨rfl, { h with
      audit := congrArg (· ++ [_]) h.audit
      ids := congrArg (· + 1) h.ids }⟩

theorem faultOf (h : w.Parts D w') (env : Environment) (i : Instruction) :
    env.faultOf w i = env.faultOf w' i := by
  rw [Environment.faultOf, Environment.faultOf, h.instructions]

end World.Parts

namespace Operation

variable {α : Type} {env : Environment} {D : List Row → List Row → Prop} {w w' : World}
  {o : Operation α}

/-- A report is answered alike in worlds that differ in rows of storages only. -/
theorem perform_report_alike (env : Environment) (h : w.Parts D w') {i : Instruction}
    (hi : i.IsReport) :
    (env.perform w i).1 = (env.perform w' i).1 ∧
      (env.perform w i).2.Parts D (env.perform w' i).2 := by
  rw [Environment.perform, Environment.perform, ← h.faultOf env i]
  cases env.faultOf w i with
  | some message => exact ⟨rfl, h.count⟩
  | none =>
    cases i with
    | log line => exact ⟨rfl, h.count.write [line]⟩
    | saveAudit entry =>
      obtain ⟨hsame, hnoted⟩ := h.count.note env entry
      exact ⟨congrArg Except.ok hsame, hnoted⟩
    | _ => exact hi.elim

/-- **Reports run in lockstep** in worlds that differ in rows of storages only. -/
theorem Asks.lockstep (ho : o.Asks Instruction.IsReport) (h : w.Parts D w') :
    Lockstep env w w' o o (World.Parts D) fun a b v v' => a = b ∧ v.Parts D v' := by
  induction o generalizing w w' with
  | done outcome =>
    cases outcome with
    | ok a => exact ⟨rfl, h⟩
    | error e => exact ⟨rfl, h⟩
  | ask i next ih =>
    obtain ⟨hsame, hparts⟩ := perform_report_alike env h ho.1
    have hnext := ih _ (ho.2 (env.perform w i).1) hparts
    unfold Lockstep at hnext ⊢
    have hrun : ∀ w, (ask i next).run env w =
        (next (env.perform w i).1).run env (env.perform w i).2 := fun _ => rfl
    rw [hrun, hrun, ← hsame]
    exact hnext

end Operation

end Depository
