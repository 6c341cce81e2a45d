/-!
# Named members

A list of members keeps a value under each of its names, in the order in which the names came.

* `Members.get?` — the value of a name;
* `Members.set` — a value put under a name, in its place if the name is there and else at the end;
* `Members.erase` — the list without a name.

The laws `get?_set_self`, `get?_set_of_ne`, `get?_erase_self` and `get?_erase_of_ne` say that the
three agree.
-/

namespace Depository

/-- Values under names. -/
abbrev Members (α : Type) := List (String × α)

namespace Members

variable {α : Type}

/-- The value of a name. -/
def get? (name : String) : Members α → Option α
  | [] => none
  | (n, v) :: rest => if n = name then some v else get? name rest

/-- The members with `value` under `name`. -/
def set (name : String) (value : α) : Members α → Members α
  | [] => [(name, value)]
  | (n, v) :: rest => if n = name then (n, value) :: rest else (n, v) :: set name value rest

/-- The members without `name`. -/
def erase (name : String) (ms : Members α) : Members α := ms.filter (·.1 ≠ name)

/-- The names in order. -/
def names (ms : Members α) : List String := ms.map Prod.fst

@[simp] theorem get?_set_self (name : String) (value : α) (ms : Members α) :
    get? name (set name value ms) = some value := by
  induction ms with
  | nil => simp [set, get?]
  | cons m ms ih =>
    by_cases h : m.1 = name <;> simp [set, get?, h, ih]

theorem get?_set_of_ne {name other : String} (h : other ≠ name) (value : α) (ms : Members α) :
    get? other (set name value ms) = get? other ms := by
  induction ms with
  | nil => simp [set, get?, Ne.symm h]
  | cons m ms ih =>
    by_cases hm : m.1 = name
    · simp [set, get?, hm, Ne.symm h]
    · simp [set, get?, hm, ih]

@[simp] theorem get?_erase_self (name : String) (ms : Members α) :
    get? name (erase name ms) = none := by
  induction ms with
  | nil => rfl
  | cons m ms ih =>
    by_cases h : m.1 = name
    · simpa [erase, h] using ih
    · simpa [erase, get?, h] using ih

theorem get?_erase_of_ne {name other : String} (h : other ≠ name) (ms : Members α) :
    get? other (erase name ms) = get? other ms := by
  induction ms with
  | nil => rfl
  | cons m ms ih =>
    obtain ⟨n, value⟩ := m
    by_cases hn : n = name
    · have hdrop : erase name ((n, value) :: ms) = erase name ms :=
        List.filter_cons_of_neg (by simpa using hn)
      rw [hdrop, ih, get?, if_neg fun hother => h (hother.symm.trans hn)]
    · have hkeep : erase name ((n, value) :: ms) = (n, value) :: erase name ms :=
        List.filter_cons_of_pos (by simpa using hn)
      rw [hkeep, get?, get?, ih]

end Members

end Depository
