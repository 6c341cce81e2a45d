import Depository.Database.Listing
import Mathlib.Data.List.Forall2

/-!
# Listings of items that compare alike

What is listed where depends on comparisons only.  So two lists whose items correspond to each
other, in pairs that come before each other alike, are listed in corresponding orders
(`Listing.forall₂_sort`), also where the comparisons make no order.
-/

namespace Depository

namespace Listing

variable {α : Type} {isBefore : α → α → Bool} {R : α → α → Prop}

/-- Corresponding items come before each other alike. -/
def Compatible (isBefore : α → α → Bool) (R : α → α → Prop) : Prop :=
  ∀ a a' b b', R a a' → R b b' → isBefore a b = isBefore a' b'

theorem runLength_eq (hc : Compatible isBefore R) (descends : Bool) {last last' : α}
    {xs ys : List α} (hl : R last last') (h : List.Forall₂ R xs ys) :
    runLength isBefore descends last xs = runLength isBefore descends last' ys := by
  induction h generalizing last last' with
  | nil => rfl
  | cons hx _ ih => rw [runLength, runLength, hc _ _ _ _ hx hl, ih hx]

theorem forall₂_getElem? {xs ys : List α} (h : List.Forall₂ R xs ys) (n : Nat) :
    (xs[n]? = none ∧ ys[n]? = none) ∨ ∃ x y, xs[n]? = some x ∧ ys[n]? = some y ∧ R x y := by
  induction h generalizing n with
  | nil => exact .inl ⟨rfl, rfl⟩
  | cons hx _ ih =>
    cases n with
    | zero => exact .inr ⟨_, _, rfl, rfl, hx⟩
    | succ n => simpa using ih n

theorem place_eq (hc : Compatible isBefore R) {x y : α} {listed listed' : List α} (hx : R x y)
    (h : List.Forall₂ R listed listed') (low high : Nat) :
    place isBefore x listed low high = place isBefore y listed' low high := by
  -- both look at the same middle, where corresponding elements stand
  fun_induction place isBefore x listed low high with
  | case1 low high hlow middle z hz hbefore ih =>
    rcases forall₂_getElem? h middle with ⟨hnone, -⟩ | ⟨a, b, ha, hb, hab⟩
    · rw [hz] at hnone
      cases hnone
    · obtain rfl := Option.some.inj (hz.symm.trans ha)
      rw [ih]
      conv_rhs => rw [place, if_pos hlow]
      simp only [middle] at hb ⊢
      simp only [hb, ← hc _ _ _ _ hx hab, hbefore, if_true]
  | case2 low high hlow middle z hz hbefore ih =>
    rcases forall₂_getElem? h middle with ⟨hnone, -⟩ | ⟨a, b, ha, hb, hab⟩
    · rw [hz] at hnone
      cases hnone
    · obtain rfl := Option.some.inj (hz.symm.trans ha)
      rw [ih]
      conv_rhs => rw [place, if_pos hlow]
      simp only [middle] at hb ⊢
      simp only [hb, ← hc _ _ _ _ hx hab, hbefore, Bool.false_eq_true, if_false]
  | case3 low high hlow middle hz =>
    rcases forall₂_getElem? h middle with ⟨-, hnone⟩ | ⟨a, b, ha, -, -⟩
    · conv_rhs => rw [place, if_pos hlow]
      simp only [middle] at hnone
      simp only [hnone]
    · rw [hz] at ha
      cases ha
  | case4 low high hlow => rw [place, if_neg hlow]

theorem forall₂_insert (hc : Compatible isBefore R) {x y : α} {listed listed' : List α}
    (hx : R x y) (h : List.Forall₂ R listed listed') :
    List.Forall₂ R (insert isBefore listed x) (insert isBefore listed' y) := by
  have hplace := place_eq hc hx h 0 listed.length
  simp only [insert]
  rw [← h.length_eq, ← hplace]
  exact List.rel_append (List.forall₂_take _ h) (.cons hx (List.forall₂_drop _ h))

theorem forall₂_foldl_insert (hc : Compatible isBefore R) {xs ys listed listed' : List α}
    (hx : List.Forall₂ R xs ys) (h : List.Forall₂ R listed listed') :
    List.Forall₂ R (xs.foldl (insert isBefore) listed) (ys.foldl (insert isBefore) listed') := by
  induction hx generalizing listed listed' with
  | nil => exact h
  | cons hx _ ih => exact ih (forall₂_insert hc hx h)

/-- **Corresponding lists are listed in corresponding orders.** -/
theorem forall₂_sort (hc : Compatible isBefore R) {xs ys : List α} (h : List.Forall₂ R xs ys) :
    List.Forall₂ R (sort isBefore xs) (sort isBefore ys) := by
  cases h with
  | nil => exact .nil
  | @cons a a' _ _ ha hrest =>
    cases hrest with
    | nil => exact .cons ha .nil
    | @cons b b' xs ys hb hrest =>
      have hall : List.Forall₂ R (a :: b :: xs) (a' :: b' :: ys) := .cons ha (.cons hb hrest)
      simp only [sort]
      -- comparisons alone decide how far the first run goes, and whether it is turned
      rw [← hc _ _ _ _ hb ha, ← runLength_eq hc _ hb hrest]
      refine forall₂_foldl_insert hc (List.forall₂_drop _ hall) ?_
      split
      · exact List.rel_reverse (List.forall₂_take _ hall)
      · exact List.forall₂_take _ hall

end Listing

end Depository
