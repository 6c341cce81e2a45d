import Depository.Schema.Issue

/-!
# Checked values

The outcome of checking a submitted value is the value or the issues found.  Two checks side by side
report the issues of both, in order.

* `Checked` — the outcome;
* `Checked.issues` — what was found, none for a valid value; `issues_seq` is the law of two checks
  side by side.
-/

namespace Depository

namespace Schema

/-- A value, or the issues that were found instead. -/
inductive Checked (α : Type) where
  | valid (value : α)
  | invalid (issues : List Issue)
  deriving Repr

namespace Checked

variable {α β : Type}

/-- The outcome with `f` applied to a valid value. -/
def map (f : α → β) : Checked α → Checked β
  | valid value => valid (f value)
  | invalid issues => invalid issues

/-- Two checks side by side. -/
def seq : Checked (α → β) → Checked α → Checked β
  | valid f, valid value => valid (f value)
  | valid _, invalid issues => invalid issues
  | invalid issues, valid _ => invalid issues
  | invalid issues, invalid more => invalid (issues ++ more)

instance : Functor Checked := ⟨map, fun value => map fun _ => value⟩

instance : Applicative Checked where
  pure := valid
  seq f x := seq f (x ())

/-- The value, if it is valid. -/
def value? : Checked α → Option α
  | valid value => some value
  | invalid _ => none

/-- The issues found. -/
def issues : Checked α → List Issue
  | valid _ => []
  | invalid issues => issues

/-- One problem, here. -/
def problem (p : Problem) : Checked α := invalid [⟨[], p⟩]

/-- The outcome as that of the member `key`. -/
def under (key : String) : Checked α → Checked α
  | valid value => valid value
  | invalid issues => invalid (issues.map (Issue.under key))

@[simp] theorem issues_valid (value : α) : (valid value).issues = [] := rfl

@[simp] theorem issues_seq (f : Checked (α → β)) (x : Checked α) :
    (f <*> x).issues = f.issues ++ x.issues := by
  cases f <;> cases x <;> simp [Seq.seq, seq, issues]

@[simp] theorem issues_map (f : α → β) (x : Checked α) : (f <$> x).issues = x.issues := by
  cases x <;> rfl

end Checked

end Schema

end Depository
