import Depository.Json.Basic
import Depository.Text.Units

/-!
# Cells

A cell is a place for a value: it has one, or nothing.  The columns of a row are cells, and so is
everything that a caller may leave out.

* `Cell.isTruthy`, `Cell.plainText?`, `Cell.number` — a cell as a truth value, a text and a number;
* `Cell.received` — what a cell has, in the words of one who expects a text;
* `Cell.same` — two cells have the same;
* `Cell.isBefore` — the order in which cells are listed.

Arrays and objects are the same as nothing else, not even as their equals, which is what `same_iff`
says: two cells have the same if they are equal and have no such value.
-/

namespace Depository

/-- A place for a value. -/
abbrev Cell := Option Json

namespace Cell

/-- The cell with a text. -/
def ofText (s : String) : Cell := some (.string s)

/-- The text in a cell, if there is one. -/
def text? : Cell → Option String
  | some (.string s) => some s
  | _ => none

/-- The cell has this text. -/
def isText (s : String) (c : Cell) : Bool := c.text? == some s

/-- The cell has a value that counts as true. -/
def isTruthy (c : Cell) : Bool := Option.any Json.isTruthy c

/-- The cell has `true`. -/
def isTrue : Cell → Bool
  | some (.bool b) => b
  | _ => false

/-- The value of a cell, null if there is none. -/
def orNull (c : Cell) : Json := Option.getD c .null

/-- The member of a name, if the cell has a value. -/
def member (name : String) : Cell → Members Json
  | some v => [(name, v)]
  | none => []

/-- A cell as plain text; none if its value has none. -/
def plainText? : Cell → Option String
  | none => some "undefined"
  | some v => v.plainText?

/-- A cell as a number; what cannot be told is no number. -/
def number : Cell → Number
  | none => .nan
  | some v => v.toNumber?.getD .nan

/-- What a cell has, in the words of one who expects a text. -/
def received (c : Cell) : String :=
  let written := c.plainText?.getD ""
  match c with
  | none | some .null | some (.string _) => written
  | some (.bool _) => "type boolean (" ++ written ++ ")"
  | some (.number _) => "type number (" ++ written ++ ")"
  | some (.array _) => "an instance of Array"
  | some (.object _) => "an instance of Object"

/-! ### Sameness -/

/-- The value can be the same as another one. -/
def isComparable : Cell → Bool
  | some (.array _) | some (.object _) | some (.number .nan) => false
  | _ => true

/-- Two cells have the same. -/
def same : Cell → Cell → Bool
  | none, none => true
  | some .null, some .null => true
  | some (.bool a), some (.bool b) => a == b
  | some (.number a), some (.number b) => a == b && a != .nan
  | some (.string a), some (.string b) => a == b
  | _, _ => false

/-- **Two cells have the same** if they are equal and their value can be the same as another. -/
theorem same_iff {a b : Cell} : a.same b = true ↔ a = b ∧ a.isComparable = true := by
  unfold same
  split
  · simp [isComparable]
  · simp [isComparable]
  · simp [isComparable]
  · rename_i x y
    simp only [Bool.and_eq_true, beq_iff_eq, bne_iff_ne, Option.some.injEq, Json.number.injEq,
      and_congr_right_iff]
    rintro rfl
    cases x <;> simp [isComparable]
  · simp [isComparable]
  · rename_i h₁ h₂ h₃ h₄ h₅
    simp only [Bool.false_eq_true, false_iff, not_and]
    rintro rfl
    match a with
    | none => exact absurd rfl (h₁ rfl)
    | some .null => exact absurd rfl (h₂ rfl)
    | some (.bool x) => exact absurd rfl (h₃ x x rfl)
    | some (.number x) => exact absurd rfl (h₄ x x rfl)
    | some (.string x) => exact absurd rfl (h₅ x x rfl)
    | some (.array _) => simp [isComparable]
    | some (.object _) => simp [isComparable]

theorem same_ofText {c : Cell} {s : String} : c.same (ofText s) = true ↔ c = ofText s := by
  rw [same_iff, and_iff_left_iff_imp]
  rintro rfl
  rfl

theorem isTruthy_ofText {s : String} : (ofText s).isTruthy = true ↔ s ≠ "" := by
  simp [ofText, isTruthy, Json.isTruthy]

theorem same_comm (a b : Cell) : a.same b = b.same a := by
  rw [Bool.eq_iff_iff, same_iff, same_iff]
  constructor <;> rintro ⟨rfl, h⟩ <;> exact ⟨rfl, h⟩

/-- What is the same as one of two cells that are the same is the same as the other. -/
theorem same_congr {a b : Cell} (h : a.same b = true) (c : Cell) : a.same c = b.same c := by
  rw [(same_iff.1 h).1]

/-! ### Order -/

/-- The text by which a cell is listed, if it has a text, an array or an object. -/
def orderText? (c : Cell) : Option String :=
  match c with
  | some (.string _) | some (.array _) | some (.object _) => c.plainText?
  | _ => none

/-- One cell comes before another one: texts in the order of their units, and all else in the order
of numbers. -/
def isBefore (a b : Cell) : Bool :=
  match a.orderText?, b.orderText? with
  | some s, some t => !Text.unitsLe t s
  | _, _ => a.number.isBelow b.number

end Cell

end Depository
