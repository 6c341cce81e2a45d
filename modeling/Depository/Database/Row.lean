import Depository.Json.Cell

/-!
# Rows

A row of a table has cells under the names of its columns.  A table may have columns that the
service knows nothing of, a row may lack some that it knows, and a column may be there with nothing
in it.

* `Row.get?`, `Row.text?` — what a row has in a column;
* `Row.update` — a row with the cells of another one put over its own;
* `Row.put` — a row put into a table, over the one of its id or at the end.

The laws `get?_update` and `find?_put` say what is found afterwards.
-/

namespace Depository

/-- A row of a table. -/
structure Row where
  columns : Members Cell

namespace Row

/-- The row with values in its columns. -/
def ofMembers (ms : Members Json) : Row := ⟨ms.map fun m => (m.1, some m.2)⟩

/-- The columns that have a value. -/
def members (r : Row) : Members Json := r.columns.flatMap fun c => c.2.member c.1

/-- The cell of a column; one that is not there has nothing. -/
def get? (column : String) (r : Row) : Cell := (Members.get? column r.columns).join

/-- The text in a column, if there is one. -/
def text? (column : String) (r : Row) : Option String := (r.get? column).text?

/-- The row has in a column what a cell has. -/
def has (column : String) (value : Cell) (r : Row) : Bool := (r.get? column).same value

/-- The row with the cells of `changes` in their columns. -/
def update (r changes : Row) : Row :=
  ⟨changes.columns.foldr (fun c ms => Members.set c.1 c.2 ms) r.columns⟩

/-- The row has this id. -/
def hasId (id : Cell) (r : Row) : Bool := r.has "id" id

/-- The row has an id; null is none. -/
def isIdentified (r : Row) : Bool :=
  match r.get? "id" with
  | none | some .null => false
  | some _ => true

/-- The first row of an id. -/
def find? (id : Cell) (rows : List Row) : Option Row := rows.find? (hasId id)

/-- The rows with `change` made to the first one of an id. -/
def changeFirst (id : Cell) (change : Row → Row) : List Row → List Row
  | [] => []
  | r :: rest => if r.hasId id then change r :: rest else r :: changeFirst id change rest

/-- The rows without the first one of an id. -/
def removeFirst (id : Cell) (rows : List Row) : List Row := rows.eraseP (hasId id)

/-- The rows with a row put over the first one of its id, or at the end. -/
def put (row : Row) : List Row → List Row
  | [] => [row]
  | r :: rest => if r.hasId (row.get? "id") then r.update row :: rest else r :: put row rest

/-! ### What is found -/

theorem get?_update (column : String) (r changes : Row) :
    (r.update changes).get? column =
      match Members.get? column changes.columns with
      | some c => c
      | none => r.get? column := by
  obtain ⟨cs⟩ := changes
  simp only [get?, update]
  induction cs with
  | nil => rfl
  | cons c cs ih =>
    by_cases h : c.1 = column
    · subst h
      simp [Members.get?]
    · simp [Members.get?, h, Members.get?_set_of_ne (Ne.symm h), ih]

theorem hasId_iff {id : Cell} {r : Row} :
    r.hasId id = true ↔ r.get? "id" = id ∧ (r.get? "id").isComparable = true := Cell.same_iff

theorem hasId_unique {id : Cell} {r : Row} (h : r.hasId id = true) (other : Cell) :
    r.hasId other = id.same other := Cell.same_congr h other

theorem hasId_update {id : Cell} {r changes : Row} (hr : r.hasId id = true)
    (h : changes.hasId id = true) : (r.update changes).hasId id = true := by
  simp only [hasId, has] at hr h ⊢
  rw [get?_update]
  simp only [get?] at h
  split
  · rename_i c hc
    rw [hc] at h
    exact h
  · exact hr

/-- **A row that is put is found under its id**, over the one that was there before, and every other
row is found as before. -/
theorem find?_put {row : Row} {id : Cell} (h : row.hasId id = true) (rows : List Row)
    (other : Cell) :
    find? other (put row rows) =
      if id.same other then some ((find? id rows).elim row (·.update row))
      else find? other rows := by
  induction rows with
  | nil =>
    by_cases e : id.same other = true
    · simp [find?, put, e, hasId_unique h]
    · simp [find?, put, e, hasId_unique h]
  | cons r rest ih =>
    simp only [put, (hasId_iff.1 h).1]
    by_cases hr : r.hasId id = true
    · have hu : (r.update row).hasId other = id.same other := hasId_unique (hasId_update hr h) other
      by_cases e : id.same other = true
      · simp [find?, hr, hu, e]
      · simp [find?, hr, hu, e, hasId_unique hr]
    · simp only [hr, Bool.false_eq_true, ↓reduceIte]
      simp only [find?] at ih ⊢
      by_cases ho : r.hasId other = true
      · have e : ¬ id.same other = true := fun e => by
          have := Cell.same_congr e (r.get? "id")
          rw [Cell.same_comm id, Cell.same_comm other] at this
          exact hr (this.trans ho)
        simp [ho, e]
      · simp [ho, hr, ih]

end Row

end Depository
