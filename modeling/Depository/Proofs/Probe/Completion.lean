import Depository.Proofs.Probe.Session

/-!
# Programs come to their end

What is said about the end of a program is worth something only if the program gets there.  A call
may take its time, the caller may have had the verdict long before, and whatever else happens
meanwhile may happen in any order: if every call that is waited for settles some time, and the
program goes on with it some time, then the program is over some time, and stays so.

The proof is an induction on the program.  At each call two things are waited for in turn, that it
settles and that the program goes on; each is an induction on how long that takes.

* `Session.upTo` — the session after the first events of a sequence without end;
* `Session.IsFair` — every call settles, and the program goes on with it;
* `Session.IsFair.finishes` — **in such a sequence of events every program comes to its end**.
-/

namespace Depository

namespace Session

variable {w : Circumstances} {s : Session} {call : Call} {reply : Except Trouble Json}
  {next : Except Trouble Json → Check Unit} {events : Nat → Moment} {n : Nat}

/-- The session after the first `n` events. -/
def upTo (w : Circumstances) (s : Session) (events : Nat → Moment) (n : Nat) : Session :=
  s.after w ((List.range n).map events)

theorem upTo_succ (s : Session) (events : Nat → Moment) (n : Nat) :
    s.upTo w events (n + 1) = (s.upTo w events n).step w (events n) := by
  rw [upTo, List.range_succ, List.map_append, after_append]
  rfl

/-- Every call that is waited for settles some time, and the program goes on some time with every
call that has settled. -/
structure IsFair (w : Circumstances) (s : Session) (events : Nat → Moment) : Prop where
  settles : ∀ n call next, (s.upTo w events n).stage = .waits call next →
    ∃ m, n ≤ m ∧ ∃ reply, events m = .settles reply
  resumes : ∀ n call reply next, (s.upTo w events n).stage = .settled call reply next →
    ∃ m, n ≤ m ∧ events m = .resumes

/-- The events in which calls settle with this reply, and programs go on, by turns. -/
def byTurns (reply : Except Trouble Json) (n : Nat) : Moment :=
  if n % 2 = 0 then .settles reply else .resumes

theorem isFair_byTurns (s : Session) (reply : Except Trouble Json) :
    s.IsFair w (byTurns reply) where
  settles n _ _ _ := ⟨2 * n, by omega, reply, if_pos (by omega)⟩
  resumes n _ _ _ _ := ⟨2 * n + 1, by omega, if_neg (by omega)⟩

/-! ### Moments at each stage -/

theorem step_of_waits (h : s.stage = .waits call next) (m : Moment) :
    (s.step w m).stage = .waits call next ∨
      ∃ reply, (s.step w m).stage = .settled call reply next := by
  obtain ⟨r, stage, replies, disarmed⟩ := s
  obtain rfl : stage = .waits call next := h
  cases m with
  | settles reply => exact .inr ⟨reply, rfl⟩
  | resumes | happens | delivers => exact .inl rfl

theorem step_of_settled (h : s.stage = .settled call reply next) (m : Moment) :
    (s.step w m).stage = .settled call reply next ∨ s.step w m = proceed w (next reply) s := by
  obtain ⟨r, stage, replies, disarmed⟩ := s
  obtain rfl : stage = .settled call reply next := h
  cases m with
  | resumes => exact .inr rfl
  | settles | happens | delivers => exact .inl rfl

theorem step_of_finished (h : s.stage = .finished) (m : Moment) :
    (s.step w m).stage = .finished := by
  obtain ⟨r, stage, replies, disarmed⟩ := s
  obtain rfl : stage = .finished := h
  cases m <;> rfl

/-! ### What comes some time -/

namespace IsFair

/-- A call that is waited for has settled some time. -/
theorem exists_settled (h : s.IsFair w events)
    (hwaits : (s.upTo w events n).stage = .waits call next) :
    ∃ m, n ≤ m ∧ ∃ reply, (s.upTo w events m).stage = .settled call reply next := by
  obtain ⟨m, hm, reply, hreply⟩ := h.settles n call next hwaits
  obtain ⟨k, rfl⟩ := Nat.exists_eq_add_of_le hm
  induction k generalizing n with
  | zero =>
    refine ⟨n + 1, Nat.le_succ n, reply, ?_⟩
    rw [upTo_succ, show events n = .settles reply from hreply, step, hwaits]
  | succ k ih =>
    rcases step_of_waits (w := w) hwaits (events n) with hstill | ⟨other, hsettled⟩
    · rw [← upTo_succ] at hstill
      rw [Nat.add_comm k, ← Nat.add_assoc] at hreply
      obtain ⟨m, hm, hdone⟩ := ih hstill (Nat.le_add_right _ k) hreply
      exact ⟨m, by omega, hdone⟩
    · exact ⟨n + 1, Nat.le_succ n, other, upTo_succ (w := w) s events n ▸ hsettled⟩

/-- The program goes on some time with a call that has settled. -/
theorem exists_proceed (h : s.IsFair w events)
    (hsettled : (s.upTo w events n).stage = .settled call reply next) :
    ∃ m, n ≤ m ∧ ∃ t, s.upTo w events m = proceed w (next reply) t := by
  obtain ⟨m, hm, hresumes⟩ := h.resumes n call reply next hsettled
  obtain ⟨k, rfl⟩ := Nat.exists_eq_add_of_le hm
  induction k generalizing n with
  | zero =>
    refine ⟨n + 1, Nat.le_succ n, s.upTo w events n, ?_⟩
    rw [upTo_succ, show events n = .resumes from hresumes, step, hsettled]
  | succ k ih =>
    rcases step_of_settled (w := w) hsettled (events n) with hstill | hgoes
    · rw [← upTo_succ] at hstill
      rw [Nat.add_comm k, ← Nat.add_assoc] at hresumes
      obtain ⟨m, hm, hdone⟩ := ih hstill (Nat.le_add_right _ k) hresumes
      exact ⟨m, by omega, hdone⟩
    · exact ⟨n + 1, Nat.le_succ n, s.upTo w events n, (upTo_succ s events n).trans hgoes⟩

/-- A program that goes on comes to its end. -/
theorem exists_finished (h : s.IsFair w events) (c : Check Unit) {t : Session}
    (hgoes : s.upTo w events n = proceed w c t) :
    ∃ m, n ≤ m ∧ (s.upTo w events m).stage = .finished := by
  induction c generalizing n t with
  | done outcome => exact ⟨n, Nat.le_refl n, congrArg Session.stage hgoes⟩
  | perform call next ih => exact ih _ hgoes
  | await call next ih =>
    obtain ⟨m, hm, reply, hsettled⟩ := h.exists_settled (congrArg Session.stage hgoes)
    obtain ⟨m', hm', t', hgoes'⟩ := h.exists_proceed hsettled
    obtain ⟨m'', hm'', hover⟩ := ih reply hgoes'
    exact ⟨m'', by omega, hover⟩
  | arrange release next ih => exact ih hgoes
  | look next ih => exact ih _ hgoes
  | draw next ih => exact ih _ hgoes

/-- A program that is over is over for ever. -/
theorem finished_of_le {m : Nat} (hover : (s.upTo w events n).stage = .finished) (hle : n ≤ m) :
    (s.upTo w events m).stage = .finished := by
  induction hle with
  | refl => exact hover
  | step _ ih =>
    rw [upTo_succ]
    exact step_of_finished ih _

/-- **Every program comes to its end** if its calls settle and it goes on with them: some time it is
over, and it is over from then on. -/
theorem finishes {c : Check Unit} {r : Run} (h : (start w c r).IsFair w events) :
    ∃ n, ∀ m, n ≤ m → ((start w c r).upTo w events m).stage = .finished := by
  obtain ⟨n, -, hover⟩ := h.exists_finished (n := 0) c (t := ⟨r, .finished, [], none⟩) rfl
  exact ⟨n, fun m hm => finished_of_le hover hm⟩

end IsFair

end Session

end Depository
