import Depository.Text.Lines

/-!
# Lines and carriage returns

A line may end with carriage returns.  Without these the lines of a text are what stands between its
line feeds, so it does not matter for them whether a line ends with a line feed alone.  Neither does
it for the pieces of a text that are not empty, since a carriage return ends a piece as well.

* `Text.bare` — a line without the carriage returns at its end;
* `Text.map_bare_lines` — **what stands between line feeds**, and `Text.map_bare_withReturns`, where
  carriage returns are put before them;
* `Text.pieces` — the pieces with something in them, which are those of the lines
  (`Text.pieces_unlines`) whether these are bare or not (`Text.pieces_bare`).
-/

namespace Depository

namespace Text

/-! ### The end of a line -/

/-- A line without the carriage returns at its end. -/
def bare (line : List Char) : List Char := stripEnd (· == '\r') line

/-- A line is the bare one and carriage returns. -/
theorem exists_eq_bare_append (line : List Char) :
    ∃ returns, (∀ c ∈ returns, c = '\r') ∧ line = bare line ++ returns := by
  obtain ⟨returns, hreturns, hline⟩ := exists_eq_stripEnd_append (· == '\r') line
  exact ⟨returns, fun c hc => beq_iff_eq.1 (hreturns c hc), hline⟩

/-- Only the bare rest of a line matters for the bare line. -/
theorem bare_cons_bare (c : Char) (line : List Char) :
    bare (c :: bare line) = bare (c :: line) := by
  obtain ⟨returns, hreturns, hline⟩ := exists_eq_bare_append line
  have hall : ∀ d ∈ returns, (d == '\r') = true := fun d hd => beq_iff_eq.2 (hreturns d hd)
  calc bare (c :: bare line) = bare (c :: bare line ++ returns) := (stripEnd_append hall _).symm
    _ = bare (c :: line) := by rw [List.cons_append, ← hline]

/-- A character before the first line, in bare lines. -/
theorem map_bare_modifyHead (c : Char) (ls : List (List Char)) :
    (ls.modifyHead (c :: ·)).map bare = (ls.map bare).modifyHead fun l => bare (c :: l) := by
  cases ls with
  | nil => rfl
  | cons l ls => simp only [List.modifyHead_cons, List.map_cons, bare_cons_bare]

theorem consFirst_eq_modifyHead {c : Char} {ls : List (List Char)} (h : ls ≠ []) :
    consFirst c ls = ls.modifyHead (c :: ·) := by
  cases ls with
  | nil => exact absurd rfl h
  | cons l ls => rfl

theorem consFirst_ne_nil (c : Char) (ls : List (List Char)) : consFirst c ls ≠ [] := by
  cases ls <;> simp [consFirst]

/-! ### Lines -/

theorem lines_ne_nil (cs : List Char) : lines cs ≠ [] := by
  fun_induction lines cs <;> simp [consFirst_ne_nil]

/-- **The bare lines of a text are what stands between its line feeds.** -/
theorem map_bare_lines (cs : List Char) : (lines cs).map bare = (cs.splitOn '\n').map bare := by
  fun_induction lines cs with
  | case1 => rfl
  | case2 cs ih =>
    -- the carriage return is at the end of its line
    rw [List.splitOn_cons_eq_if_modifyHead, if_neg (by decide), List.splitOn_cons_eq_if_modifyHead,
      if_pos (by decide), List.map_cons, ih]
    rfl
  | case3 cs ih =>
    rw [List.splitOn_cons_eq_if_modifyHead, if_pos (by decide), List.map_cons, List.map_cons, ih]
  | case4 c cs hreturn hfeed ih =>
    have hc : ¬(c == '\n') = true := by simpa using fun h => hfeed h
    rw [List.splitOn_cons_eq_if_modifyHead, if_neg hc, map_bare_modifyHead, ← ih,
      ← map_bare_modifyHead, consFirst_eq_modifyHead (lines_ne_nil cs)]

/-- The text with a carriage return before every line feed. -/
def withReturns (cs : List Char) : List Char :=
  cs.flatMap fun c => if c = '\n' then ['\r', '\n'] else [c]

/-- **Carriage returns before line feeds change no bare line.** -/
theorem map_bare_withReturns (cs : List Char) :
    ((withReturns cs).splitOn '\n').map bare = (cs.splitOn '\n').map bare := by
  induction cs with
  | nil => rfl
  | cons c cs ih =>
    by_cases hc : c = '\n'
    · subst hc
      have hfirst : withReturns ('\n' :: cs) = ['\r'] ++ '\n' :: withReturns cs := rfl
      rw [hfirst, List.splitOn_append_cons_self, List.map_append, ih]
      rfl
    · have hfirst : withReturns (c :: cs) = c :: withReturns cs := by
        simp [withReturns, List.flatMap_cons, hc]
      have hne : ¬(c == '\n') = true := by simpa using hc
      rw [hfirst, List.splitOn_cons_eq_if_modifyHead, List.splitOn_cons_eq_if_modifyHead,
        if_neg hne, if_neg hne, map_bare_modifyHead, map_bare_modifyHead, ih]

/-! ### Pieces -/

/-- The character ends a piece. -/
def isBreak (c : Char) : Bool := c == '\n' || c == '\r'

theorem breaks_eq_splitOnP (cs : List Char) : breaks cs = cs.splitOnP isBreak := by
  induction cs with
  | nil => rfl
  | cons c cs ih =>
    rw [breaks, List.splitOnP_cons_eq_if_modifyHead, ih,
      consFirst_eq_modifyHead (List.splitOnP_ne_nil _ _)]
    simp [isBreak]

/-- The pieces of a text with something in them. -/
def pieces (cs : List Char) : List (List Char) := (breaks cs).filter fun piece => !piece.isEmpty

theorem pieces_append_cons {c : Char} (hc : isBreak c = true) (xs ys : List Char) :
    pieces (xs ++ c :: ys) = pieces xs ++ pieces ys := by
  simp only [pieces, breaks_eq_splitOnP, List.splitOnP_append_cons _ _ hc, List.filter_append]

/-- There is nothing between the characters that end pieces. -/
theorem pieces_append_breaks {last : List Char} (h : ∀ c ∈ last, isBreak c = true)
    (xs : List Char) : pieces (xs ++ last) = pieces xs := by
  induction last generalizing xs with
  | nil => rw [List.append_nil]
  | cons c last ih =>
    obtain ⟨hc, hlast⟩ := List.forall_mem_cons.1 h
    have hnone : pieces last = [] := ih hlast []
    rw [pieces_append_cons hc, hnone, List.append_nil]

/-- **A line has the pieces of the bare line.** -/
theorem pieces_bare (line : List Char) : pieces (bare line) = pieces line := by
  obtain ⟨returns, hreturns, hline⟩ := exists_eq_bare_append line
  have hbreaks : ∀ c ∈ returns, isBreak c = true := fun c hc => by rw [hreturns c hc]; rfl
  exact (pieces_append_breaks hbreaks (bare line)).symm.trans (congrArg pieces hline.symm)

/-- **Lines that are put together have the pieces of each.** -/
theorem pieces_unlines (ls : List (List Char)) : pieces (unlines ls) = ls.flatMap pieces := by
  induction ls with
  | nil => rfl
  | cons l ls ih =>
    cases ls with
    | nil => simp [unlines]
    | cons l' ls =>
      have hcons : unlines (l :: l' :: ls) = l ++ '\n' :: unlines (l' :: ls) := by
        simp [unlines]
      rw [hcons, pieces_append_cons rfl, ih, ← List.flatMap_cons]

end Text

end Depository
