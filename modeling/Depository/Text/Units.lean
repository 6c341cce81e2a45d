/-!
# Text in sixteen-bit units

Some lengths and orders are counted in the sixteen-bit units of a text, not in characters: a
character above U+FFFF has two units, its surrogates.

* `units` — the units of a text;
* `unitCount` — their number;
* `unitsLe` — the lexicographic order of texts by their units, in which the characters above U+FFFF
  come before those from U+E000 to U+FFFF;
* `lowChars` — the characters of the low bytes of the units, which is what a reader of digits sees
  that looks at one byte of each unit.
-/

namespace Depository

namespace Text

/-- The sixteen-bit units of a character. -/
def charUnits (c : Char) : List Nat :=
  let n := c.toNat
  if n < 0x10000 then [n]
  else [0xD800 + (n - 0x10000) / 0x400, 0xDC00 + (n - 0x10000) % 0x400]

/-- The sixteen-bit units of a text. -/
def units (s : String) : List Nat := s.toList.flatMap charUnits

/-- The number of sixteen-bit units of a text. -/
def unitCount (s : String) : Nat := (units s).length

/-- The characters of the low bytes of the units of a text. -/
def lowChars (s : String) : List Char := (units s).map fun u => Char.ofNat (u % 256)

theorem charUnits_of_lt {c : Char} (h : c.toNat < 0x10000) : charUnits c = [c.toNat] := by
  simp [charUnits, h]

/-- A text of small characters is read as it is. -/
theorem lowChars_ofList {cs : List Char} (h : ∀ c ∈ cs, c.toNat < 256) :
    lowChars (String.ofList cs) = cs := by
  rw [lowChars, units, String.toList_ofList]
  induction cs with
  | nil => rfl
  | cons c cs ih =>
    have hc : c.toNat < 256 := h c (List.mem_cons_self ..)
    have hcs : ∀ d ∈ cs, d.toNat < 256 := fun d hd => h d (List.mem_cons_of_mem _ hd)
    rw [List.flatMap_cons, charUnits_of_lt (by omega), List.map_append, ih hcs]
    simp [Nat.mod_eq_of_lt hc]

/-- The lexicographic order of lists of numbers. -/
def listLe : List Nat → List Nat → Bool
  | [], _ => true
  | _ :: _, [] => false
  | x :: xs, y :: ys => x < y || (x == y && listLe xs ys)

/-- `s` is not after `t` in the order of their units. -/
def unitsLe (s t : String) : Bool := listLe (units s) (units t)

end Text

end Depository
