import Depository.Service.World

/-!
# Operations in two worlds

Two operations agree if, in worlds that differ in the tables only, they come to values that belong
together, or to the same failure, and change nothing else differently.  That is proved along the
operations: where they look at the tables, what they find must belong together, and from there on
they go on alike.

* `Outcomes` — two outcomes belong together;
* `Operation.Agrees` — the two operations come to such outcomes;
* `Operation.AgreesOr` — they come to the same, but for what is told of a difference.
-/

namespace Depository

/-- Both outcomes are values that `R` relates, or both are the same failure. -/
def Outcomes {α β : Type} (R : α → β → Prop) : Except Failure α → Except Failure β → Prop
  | .ok a, .ok b => R a b
  | .error e, .error f => e = f
  | _, _ => False

namespace Outcomes

variable {α β γ δ : Type} {R : α → β → Prop} {S : γ → δ → Prop} {x : Except Failure α}
  {y : Except Failure β}

theorem eq {y : Except Failure α} (h : Outcomes Eq x y) : x = y := by
  cases x <;> cases y <;> first | exact h.elim | exact congrArg _ h

theorem refl {R : α → α → Prop} (hR : ∀ a, R a a) (x : Except Failure α) : Outcomes R x x := by
  cases x with
  | ok a => exact hR a
  | error e => exact Eq.refl e

theorem mono {R' : α → β → Prop} (h : Outcomes R x y) (hR : ∀ a b, R a b → R' a b) :
    Outcomes R' x y := by
  cases x <;> cases y <;> first | exact h.elim | exact h | exact hR _ _ h

theorem map {f : α → γ} {g : β → δ} (h : Outcomes R x y) (hf : ∀ a b, R a b → S (f a) (g b)) :
    Outcomes S (x.map f) (y.map g) := by
  cases x <;> cases y <;> first | exact h.elim | exact h | exact hf _ _ h

theorem bind {f : α → Except Failure γ} {g : β → Except Failure δ} (h : Outcomes R x y)
    (hf : ∀ a b, R a b → Outcomes S (f a) (g b)) : Outcomes S (x >>= f) (y >>= g) := by
  cases x <;> cases y <;> first | exact h.elim | exact h | exact hf _ _ h

end Outcomes

namespace Operation

variable {α β γ δ : Type} {env : Environment} {t u : Tables}

/-- The one operation in tables `t` and the other one in tables `u` come to outcomes that `R`
relates, and to worlds that differ in the tables only, which are as they were. -/
def Agrees (env : Environment) (t u : Tables) (o : Operation α) (p : Operation β)
    (R : α → β → Prop) : Prop :=
  ∀ w : World, w.tables = t → ∃ (x : Except Failure α) (y : Except Failure β) (v : World),
    o.run env w = (x, v) ∧ p.run env { w with tables := u } = (y, { v with tables := u }) ∧
      v.tables = t ∧ Outcomes R x y

variable {o : Operation α} {p : Operation β} {f : α → Operation γ} {g : β → Operation δ}
  {R : α → β → Prop} {S : γ → δ → Prop}

theorem agrees_lift {x : Except Failure α} {y : Except Failure β} (h : Outcomes R x y) :
    (lift x).Agrees env t u (lift y) R := fun w hw => ⟨x, y, w, rfl, rfl, hw, h⟩

theorem agrees_pure {a : α} {b : β} (h : R a b) :
    (pure a : Operation α).Agrees env t u (pure b) R := agrees_lift h

theorem agrees_fail (e : Failure) :
    (fail e : Operation α).Agrees env t u (fail e : Operation β) R := agrees_lift (Eq.refl e)

/-- Both get past the condition, or both fail. -/
theorem agrees_require (condition : Bool) (e : Failure) :
    (require condition e).Agrees env t u (require condition e) fun _ _ => condition = true := by
  cases condition with
  | true => exact agrees_pure rfl
  | false => exact agrees_fail e

theorem agrees_told (c : Cell) : (told c).Agrees env t u (told c) Eq := by
  rw [told]
  cases c.plainText? with
  | none => exact agrees_fail _
  | some text => exact agrees_pure rfl

/-- Operations that agree go on with values that belong together. -/
theorem Agrees.bind (h : o.Agrees env t u p R)
    (hf : ∀ a b, R a b → (f a).Agrees env t u (g b) S) :
    (o >>= f).Agrees env t u (p >>= g) S := by
  intro w hw
  obtain ⟨x, y, v, ho, hp, hv, hxy⟩ := h w hw
  rw [run_bind, run_bind, ho, hp]
  -- both came to values that belong together, or both failed alike
  match x, y, hxy with
  | .ok a, .ok b, hab => exact hf a b hab v hv
  | .error e, .error _, rfl => exact ⟨.error e, .error e, v, rfl, rfl, hv, rfl⟩

theorem Agrees.mono {R' : α → β → Prop} (h : o.Agrees env t u p R)
    (hR : ∀ a b, R a b → R' a b) : o.Agrees env t u p R' := by
  intro w hw
  obtain ⟨x, y, v, ho, hp, hv, hxy⟩ := h w hw
  exact ⟨x, y, v, ho, hp, hv, hxy.mono hR⟩

/-- Both questions fail, or both are answered. -/
theorem agrees_request {i : Instruction} {R : i.Answer → i.Answer → Prop}
    (h : ∀ w : World, w.tables = t → ∃ x y, env.answer w i = (x, w) ∧
      env.answer { w with tables := u } i = (y, { w with tables := u }) ∧ Outcomes R x y) :
    (request i).Agrees env t u (request i) R := by
  intro w hw
  have hrun : ∀ w, (request i).run env w = env.perform w i := fun _ => rfl
  have hfault : env.faultOf { w with tables := u } i = env.faultOf w i := rfl
  rw [hrun, hrun, Environment.perform, Environment.perform, hfault]
  cases env.faultOf w i with
  | some m => exact ⟨_, _, _, rfl, rfl, hw, rfl⟩
  | none =>
    obtain ⟨x, y, hx, hy, hxy⟩ := h { w with instructions := w.instructions + 1 } hw
    exact ⟨x, y, _, hx, hy, hw, hxy⟩

/-- Operations that agree on the same values come to the same from a start in either table. -/
theorem Agrees.run_start {o p : Operation α} (h : o.Agrees env t u p Eq) :
    (o.run env (.start t)).1 = (p.run env (.start u)).1 := by
  obtain ⟨x, y, v, ho, hp, -, hxy⟩ := h (.start t) rfl
  have hstart : ({ World.start t with tables := u } : World) = .start u := rfl
  rw [hstart] at hp
  rw [ho, hp]
  exact hxy.eq

/-! ### Operations that need not agree -/

/-- The one operation in tables `t` and the other one in tables `u` come to the same outcome, or to
outcomes that `E` relates. -/
def AgreesOr (env : Environment) (t u : Tables) (o p : Operation α)
    (E : Except Failure α → Except Failure α → Prop) : Prop :=
  ∀ w : World, w.tables = t →
    let ended := (o.run env w).1
    let ended' := (p.run env { w with tables := u }).1
    ended' = ended ∨ E ended ended'

/-- What comes after operations that agree decides. -/
theorem Agrees.bind_or {g : β → Operation γ} {E : Except Failure γ → Except Failure γ → Prop}
    (h : o.Agrees env t u p R) (hf : ∀ a b, R a b → (f a).AgreesOr env t u (g b) E) :
    (o >>= f).AgreesOr env t u (p >>= g) E := by
  intro w hw
  obtain ⟨x, y, v, ho, hp, hv, hxy⟩ := h w hw
  rw [run_bind, run_bind, ho, hp]
  match x, y, hxy with
  | .ok a, .ok b, hab => exact hf a b hab v hv
  | .error e, .error _, rfl => exact .inl rfl

end Operation

end Depository
