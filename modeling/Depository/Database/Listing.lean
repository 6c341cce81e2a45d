/-!
# Listings

Items are listed by an order that is given as a test, "this one comes before that one".  The order
need not be one on all items: some of them may have no place in it, as a name that is no text has
none among texts.  Then what is listed depends on which items are compared, and that is settled
here: the items keep the run that they begin with, turned around where it descends, and each further
one is put in by halving the range of its place, after those that it does not come before.

* `Listing.sort` — the items in their order.

A listing has the items that it was made of, each as often, which is what `sort_perm` says.
-/

namespace Depository

namespace Listing

variable {α : Type} (isBefore : α → α → Bool)

/-- The number of items that go on as a run does, up or down, after its last item. -/
def runLength (descends : Bool) (last : α) : List α → Nat
  | [] => 0
  | x :: rest => if isBefore x last == descends then runLength descends x rest + 1 else 0

/-- The place of an item among those from `low` to `high`. -/
def place (x : α) (listed : List α) (low high : Nat) : Nat :=
  if low < high then
    let middle := (low + high) / 2
    match listed[middle]? with
    | some y =>
      if isBefore x y then place x listed low middle else place x listed (middle + 1) high
    | none => low
  else low
termination_by high - low

/-- The listed items with one more. -/
def insert (listed : List α) (x : α) : List α :=
  let n := place isBefore x listed 0 listed.length
  listed.take n ++ x :: listed.drop n

/-- The items in their order. -/
def sort (xs : List α) : List α :=
  match xs with
  | a :: b :: rest =>
    let descends := isBefore b a
    let n := runLength isBefore descends b rest + 2
    let run := if descends then (xs.take n).reverse else xs.take n
    (xs.drop n).foldl (insert isBefore) run
  | xs => xs

/-! ### What is listed -/

theorem insert_perm (listed : List α) (x : α) : (insert isBefore listed x).Perm (x :: listed) := by
  simp only [insert]
  refine List.perm_middle.trans (List.Perm.cons x ?_)
  rw [List.take_append_drop]

theorem foldl_insert_perm (xs listed : List α) :
    (xs.foldl (insert isBefore) listed).Perm (listed ++ xs) := by
  induction xs generalizing listed with
  | nil => simp
  | cons x xs ih =>
    rw [List.foldl_cons]
    refine (ih _).trans ?_
    refine ((insert_perm isBefore listed x).append_right xs).trans ?_
    exact List.perm_middle.symm

/-- **A listing has the items that it was made of.** -/
theorem sort_perm (xs : List α) : (sort isBefore xs).Perm xs := by
  unfold sort
  split
  · rename_i a b rest
    dsimp only
    refine (foldl_insert_perm isBefore _ _).trans ?_
    split
    · refine ((List.reverse_perm _).append_right _).trans ?_
      rw [List.take_append_drop]
    · rw [List.take_append_drop]
  · exact List.Perm.refl _

theorem mem_sort {x : α} {xs : List α} : x ∈ sort isBefore xs ↔ x ∈ xs :=
  (sort_perm isBefore xs).mem_iff

end Listing

end Depository
