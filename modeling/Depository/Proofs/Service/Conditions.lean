import Depository.Proofs.Service.Tells

/-!
# What an operation checks, in its order

An operation that checks several things one after another fails with the first that does not hold.
So its conditions, with the failure of each, decide how it ends: it comes to a value if all of them
hold, and otherwise its failure is known.

* `Service.Condition` — what is checked, and the failure if it does not hold;
* `Service.FirstViolated` — the failure of the first condition that does not hold, of which there is
  at most one (`Service.FirstViolated.unique`);
* `Operation.IsDecidedBy` — the conditions decide how an operation ends, and what that says of a run
  (`Operation.IsDecidedBy.run`).
-/

namespace Depository

namespace Service

/-- What an operation checks, and how it fails if that does not hold. -/
structure Condition where
  holds : Prop
  failure : Failure

/-- The failure is that of the first of the conditions that does not hold. -/
def FirstViolated (conditions : List Condition) (e : Failure) : Prop :=
  ∃ before c after, conditions = before ++ c :: after ∧ (∀ b ∈ before, b.holds) ∧ ¬c.holds ∧
    e = c.failure

variable {c : Condition} {rest conditions : List Condition} {e e' : Failure}

theorem FirstViolated.not_all (h : FirstViolated conditions e) : ¬∀ c ∈ conditions, c.holds := by
  obtain ⟨before, c, after, rfl, -, hc, -⟩ := h
  exact fun hall => hc (hall c (by simp))

theorem not_firstViolated_nil : ¬FirstViolated [] e := fun h => h.not_all (by simp)

/-- It is the first condition that does not hold, or the first of the others. -/
theorem firstViolated_cons : FirstViolated (c :: rest) e ↔
    ¬c.holds ∧ e = c.failure ∨ c.holds ∧ FirstViolated rest e := by
  constructor
  · rintro ⟨before, d, after, hsplit, hbefore, hd, he⟩
    cases before with
    | nil =>
      obtain ⟨rfl, -⟩ := List.cons.inj hsplit
      exact .inl ⟨hd, he⟩
    | cons b before =>
      obtain ⟨rfl, hrest⟩ := List.cons.inj hsplit
      obtain ⟨hb, hbefore⟩ := List.forall_mem_cons.1 hbefore
      exact .inr ⟨hb, before, d, after, hrest, hbefore, hd, he⟩
  · rintro (⟨hc, he⟩ | ⟨hc, before, d, after, rfl, hbefore, hd, he⟩)
    · exact ⟨[], c, rest, rfl, by simp, hc, he⟩
    · exact ⟨c :: before, d, after, rfl, List.forall_mem_cons.2 ⟨hc, hbefore⟩, hd, he⟩

/-- The first condition that does not hold has one failure. -/
theorem FirstViolated.unique (h : FirstViolated conditions e) (h' : FirstViolated conditions e') :
    e = e' := by
  induction conditions with
  | nil => exact absurd h not_firstViolated_nil
  | cons c rest ih =>
    rcases firstViolated_cons.1 h with ⟨hc, rfl⟩ | ⟨hc, hrest⟩ <;>
      rcases firstViolated_cons.1 h' with ⟨hc', rfl⟩ | ⟨hc', hrest'⟩
    · rfl
    · exact absurd hc' hc
    · exact absurd hc hc'
    · exact ih hrest hrest'

end Service

namespace Operation

open Service

variable {α β : Type} {env : Environment} {t : Tables} {n : Nat} {o : Operation α}
  {f : α → Operation β} {P : α → Prop} {S : α → World → Prop} {c : Condition}
  {rest conditions : List Condition}

/-- The operation fails with the first of the conditions that does not hold, and comes to a value
if all of them hold. -/
def IsDecidedBy (env : Environment) (t : Tables) (n : Nat) (conditions : List Condition)
    (o : Operation α) : Prop :=
  o.Ends env t n (fun e _ => FirstViolated conditions e) fun _ _ => ∀ c ∈ conditions, c.holds

/-- An operation without conditions is one that does not fail. -/
theorem isDecidedBy_nil (h : o.Ends env t n (fun _ _ => False) S) : o.IsDecidedBy env t n [] :=
  Ends.mono h (fun _ _ hfalse => hfalse.elim) fun _ _ _ => by simp

/-- **One condition after another**: a part that fails if the first does not hold comes before what
the others decide. -/
theorem isDecidedBy_cons (h : o.Tells env t n (fun e => ¬c.holds ∧ e = c.failure) P)
    (hP : ∀ a, P a → c.holds) (hf : ∀ a, P a → (f a).IsDecidedBy env t n rest) :
    (o >>= f).IsDecidedBy env t n (c :: rest) := by
  refine Ends.bind (Ends.mono h (fun _ _ he => firstViolated_cons.2 (.inl he)) fun _ _ ha => ha) ?_
  rintro a w ⟨hw, ha⟩
  rw [hw.tables, hw.ids]
  refine Ends.mono (hf a ha) (fun _ _ he => firstViolated_cons.2 (.inr ⟨hP a ha, he⟩)) ?_
  exact fun _ _ hall => List.forall_mem_cons.2 ⟨hP a ha, hall⟩

/-- A condition that can be told is checked by requiring it. -/
theorem tells_condition {condition : Bool} (h : condition = true ↔ c.holds) :
    (require condition c.failure).Tells env t n (fun e => ¬c.holds ∧ e = c.failure)
      fun _ => c.holds := by
  have hnot : condition = false → ¬c.holds := fun hfalse => by
    rw [← h, hfalse]
    exact Bool.false_ne_true
  refine Ends.mono (tells_require fun hfalse => ⟨hnot hfalse, rfl⟩) (fun _ _ he => he) ?_
  rintro _ w ⟨hw, hcondition⟩
  exact ⟨hw, h.1 hcondition⟩

/-- **The conditions decide how a run ends.** -/
theorem IsDecidedBy.run {w : World} (h : o.IsDecidedBy env w.tables w.ids conditions) :
    ((∃ a, (o.run env w).1 = .ok a) ↔ ∀ c ∈ conditions, c.holds) ∧
      ∀ e, (o.run env w).1 = .error e ↔ FirstViolated conditions e := by
  obtain ⟨a, ha, hall⟩ | ⟨e', he', hfirst⟩ := Ends.run h w.at_self
  · rw [ha]
    refine ⟨iff_of_true ⟨a, rfl⟩ hall, fun e => iff_of_false nofun fun hfirst => ?_⟩
    exact hfirst.not_all hall
  · rw [he']
    refine ⟨iff_of_false (by simp) hfirst.not_all, fun e => ?_⟩
    constructor
    · intro he
      exact Except.error.inj he ▸ hfirst
    · intro he
      exact congrArg Except.error (hfirst.unique he)

end Operation

end Depository
