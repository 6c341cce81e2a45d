import Depository.Proofs.Service.Request
import Depository.Proofs.Service.Spares

/-!
# Operations side by side

Operations of several callers run side by side: between two instructions of one of them the others
may have changed the tables.  What can be said of an operation then is that it keeps an invariant of
the tables, and what its value is like, if every instruction is performed in tables of which the
invariant holds (`Operation.Keeps`).

* `Operation.Keeps` — the invariant is kept with every instruction, and by what leaves the storages
  alone if it is about them (`Operation.Spares.keeps`);
* `ReachableBy` — the tables, and what is left of the operations that were started, after any number
  of instructions in any order, of any number of requests of a kind in environments of a kind, and
  `Reachable`, the instance for parsed requests;
* `ReachableBy.run` — an operation that runs alone is one of the orders;
* `ReachableBy.keeps` — **an invariant that every request keeps holds in all reachable tables.**
-/

namespace Depository

namespace Operation

variable {α β : Type} {E : Environment → Prop} {I : Tables → Prop}

/-- Each instruction of the operation, in any environment of the kind `E` and any tables of which
`I` holds, comes to such tables again, and `P` holds of the value of the operation, if it comes to
one. -/
def Keeps (E : Environment → Prop) (I : Tables → Prop) : Operation α → (α → Prop) → Prop
  | done (.ok a), P => P a
  | done (.error _), _ => True
  | ask i next, P => ∀ (env : Environment) (w : World), E env → I w.tables →
      I (env.perform w i).2.tables ∧ (next (env.perform w i).1).Keeps E I P

variable {o : Operation α} {f : α → Operation β} {P P' : α → Prop} {Q : β → Prop}

theorem keeps_pure {a : α} (h : P a) : (pure a : Operation α).Keeps E I P := h

theorem keeps_fail {e : Failure} : (fail e : Operation α).Keeps E I P := trivial

theorem keeps_lift (outcome : Except Failure α) :
    (lift outcome).Keeps E I fun a => outcome = .ok a := by
  cases outcome with
  | ok a => exact keeps_pure rfl
  | error e => exact keeps_fail

theorem keeps_require (condition : Bool) (e : Failure) :
    (require condition e).Keeps E I fun _ => condition = true := by
  cases condition with
  | true => exact keeps_pure rfl
  | false => exact keeps_fail

theorem keeps_told (c : Cell) : (told c).Keeps E I fun _ => True := by
  rw [told]
  cases c.plainText? with
  | none => exact keeps_fail
  | some text => exact keeps_pure trivial

theorem Keeps.mono (h : o.Keeps E I P) (hP : ∀ a, P a → P' a) : o.Keeps E I P' := by
  induction o with
  | done outcome =>
    cases outcome with
    | ok a => exact hP a h
    | error e => trivial
  | ask i next ih => exact fun env w hE hw => ⟨(h env w hE hw).1, ih _ (h env w hE hw).2⟩

theorem Keeps.bind (h : o.Keeps E I P) (hf : ∀ a, P a → (f a).Keeps E I Q) :
    (o >>= f).Keeps E I Q := by
  induction o with
  | done outcome =>
    cases outcome with
    | ok a => exact hf a h
    | error e => trivial
  | ask i next ih => exact fun env w hE hw => ⟨(h env w hE hw).1, ih _ (h env w hE hw).2⟩

theorem Keeps.attempt (h : o.Keeps E I P) :
    o.attempt.Keeps E I fun outcome => ∀ a, outcome = .ok a → P a := by
  induction o with
  | done outcome =>
    cases outcome with
    | ok a =>
      rintro _ ⟨⟩
      exact h
    | error e => exact fun a ha => nomatch ha
  | ask i next ih => exact fun env w hE hw => ⟨(h env w hE hw).1, ih _ (h env w hE hw).2⟩

/-- An instruction that fails in the tables changes nothing, so its answer is all that counts. -/
theorem keeps_request {i : Instruction} {P : i.Answer → Prop}
    (h : ∀ (env : Environment) (w : World), E env → I w.tables →
      match env.answer w i with
      | (.ok a, w) => I w.tables ∧ P a
      | (.error _, w) => I w.tables) : (request i).Keeps E I P := by
  intro env w hE hw
  rw [Environment.perform]
  cases env.faultOf w i with
  | some m => exact ⟨hw, trivial⟩
  | none =>
    have hend := h env { w with instructions := w.instructions + 1 } hE hw
    dsimp only
    rcases ha : env.answer { w with instructions := w.instructions + 1 } i with ⟨a | a, w'⟩ <;>
      rw [ha] at hend
    · exact ⟨hend, trivial⟩
    · exact hend

/-- What leaves the storages alone keeps every invariant that is about storages, where nobody else
changes them meanwhile. -/
theorem Spares.keeps (h : o.Spares) (hE : ∀ env, E env → env.IsQuiet)
    (hI : ∀ t u : Tables, u.storages = t.storages → I t → I u) : o.Keeps E I fun _ => True := by
  induction o with
  | done outcome => cases outcome <;> trivial
  | ask i next ih =>
    intro env w henv hw
    exact ⟨hI _ _ (Service.storages_perform (hE env henv) w h.1 h.2.1) hw, ih _ (h.2.2 _)⟩

end Operation

/-! ### Reachable tables -/

/-- The tables that are reached from an empty table of storages by requests of the kind `asks`, in
environments of the kind `E`, and what is left of the operations that were started. -/
inductive ReachableBy (asks : Request → Prop) (E : Environment → Prop) :
    Tables → List (Operation Unit) → Prop where
  | start {t : Tables} : t.storages = [] → ReachableBy asks E t []
  /-- Somebody starts an operation. -/
  | call {t : Tables} {pool : List (Operation Unit)} (cloudMode : Bool) (request : Request) :
    asks request → ReachableBy asks E t pool →
      ReachableBy asks E t (request.program cloudMode :: pool)
  /-- The next instruction of one of the operations is performed. -/
  | advance {before after : List (Operation Unit)} {i : Instruction}
      {next : Except Failure i.Answer → Operation Unit} (env : Environment) (w : World) :
    E env → ReachableBy asks E w.tables (before ++ .ask i next :: after) →
      ReachableBy asks E (env.perform w i).2.tables (before ++ next (env.perform w i).1 :: after)
  /-- Other tables are changed. -/
  | others {t u : Tables} {pool : List (Operation Unit)} :
    u.storages = t.storages → ReachableBy asks E t pool → ReachableBy asks E u pool

namespace ReachableBy

variable {asks : Request → Prop} {E : Environment → Prop} {t : Tables}
  {pool : List (Operation Unit)}

/-- An operation that runs alone from some moment on is run to its end. -/
theorem run {before after : List (Operation Unit)} {o : Operation Unit} (env : Environment)
    (w : World) (hE : E env) (h : ReachableBy asks E w.tables (before ++ o :: after)) :
    ReachableBy asks E (o.run env w).2.tables (before ++ .done (o.run env w).1 :: after) := by
  induction o generalizing w with
  | done outcome => exact h
  | ask i next ih => exact ih (env.perform w i).1 (env.perform w i).2 (.advance env w hE h)

/-- **What every request keeps holds in all tables that requests reach**, if it is about storages
and holds of the empty table. -/
theorem keeps {I : Tables → Prop} (hempty : ∀ t : Tables, t.storages = [] → I t)
    (hothers : ∀ t u : Tables, u.storages = t.storages → I t → I u)
    (hrequest : ∀ (cloudMode : Bool) (request : Request), asks request →
      (request.program cloudMode).Keeps E I fun _ => True) (h : ReachableBy asks E t pool) :
    I t ∧ ∀ o ∈ pool, o.Keeps E I fun _ => True := by
  -- whatever is left of an operation keeps the invariant too
  induction h with
  | start hs => exact ⟨hempty _ hs, by simp⟩
  | call cloudMode request hr _ ih =>
    exact ⟨ih.1, List.forall_mem_cons.2 ⟨hrequest cloudMode request hr, ih.2⟩⟩
  | others hs _ ih => exact ⟨hothers _ _ hs ih.1, ih.2⟩
  | @advance before after i next env w hE _ ih =>
    obtain ⟨hw, hpool⟩ := ih
    have hstep : (Operation.ask i next).Keeps E I fun _ => True := hpool _ (by simp)
    obtain ⟨htables, hnext⟩ := hstep env w hE hw
    refine ⟨htables, fun o ho => ?_⟩
    rcases List.mem_append.1 ho with ho | ho
    · exact hpool o (List.mem_append_left _ ho)
    · rcases List.mem_cons.1 ho with rfl | ho
      · exact hnext
      · exact hpool o (List.mem_append_right _ (List.mem_cons_of_mem _ ho))

end ReachableBy

/-- The tables that are reached by requests that were read from bodies, where nobody else changes
the tables while a connection test runs. -/
abbrev Reachable : Tables → List (Operation Unit) → Prop :=
  ReachableBy Request.IsParsed Environment.IsQuiet

end Depository
