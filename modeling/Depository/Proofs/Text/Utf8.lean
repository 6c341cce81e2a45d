import Depository.Text.Utf8

/-!
# UTF-8 reads back what it wrote

The decoder takes any bytes.  From a boundary, the bytes of a character bring it back to a boundary
with that character (`Utf8.run_encodeChar`), so that the bytes of a text are decoded to the text
(`Utf8.decode_encode`).
-/

namespace Depository

namespace Text

namespace Utf8

theorem toNat_toUInt8 {n : Nat} (h : n < 256) : n.toUInt8.toNat = n := Nat.mod_eq_of_lt h

/-! ### Characters -/

/-- The number of a character is none of a surrogate, and at most U+10FFFF. -/
theorem toNat_cases (c : Char) : c.toNat < 0xD800 ∨ (0xDFFF < c.toNat ∧ c.toNat < 0x110000) := by
  have h := c.valid
  simp only [UInt32.isValidChar, Nat.isValidChar] at h
  exact h

theorem ofNat_of_toNat {c : Char} {n : Nat} (h : n = c.toNat) : Char.ofNat n = c := by
  rw [h, Char.ofNat_toNat]

/-! ### Lead bytes -/

theorem lead_one {n : Nat} (h : n < 0x80) : State.lead n = (.boundary, [Char.ofNat n]) := by
  rw [State.lead, if_pos h]

theorem lead_two {m : Nat} (h₁ : 2 ≤ m) (h₂ : m < 0x20) :
    State.lead (0xC0 + m) = (.within 0 0x80 0xBF m, []) := by
  rw [State.lead, if_neg (by omega), if_neg (by omega), if_pos (by omega), Nat.add_sub_cancel_left]

/-- A lead byte of three: after the first the continuation begins late, and after that of the
surrogates it ends early. -/
theorem lead_three {m : Nat} (h : m < 0x10) :
    State.lead (0xE0 + m) =
      (.within 1 (if m = 0 then 0xA0 else 0x80) (if m = 0xD then 0x9F else 0xBF) m, []) := by
  rw [State.lead, if_neg (by omega), if_neg (by omega), if_neg (by omega)]
  by_cases h0 : m = 0
  · subst h0
    rfl
  by_cases hd : m = 0xD
  · subst hd
    rfl
  rw [if_neg (by omega), if_neg (by omega), if_pos (by omega), if_neg h0, if_neg hd,
    Nat.add_sub_cancel_left]

/-- A lead byte of four: after the first the continuation begins late, and after the last it ends
early. -/
theorem lead_four {m : Nat} (h : m < 5) :
    State.lead (0xF0 + m) =
      (.within 2 (if m = 0 then 0x90 else 0x80) (if m = 4 then 0x8F else 0xBF) m, []) := by
  rw [State.lead, if_neg (by omega), if_neg (by omega), if_neg (by omega), if_neg (by omega),
    if_neg (by omega), if_neg (by omega)]
  by_cases h0 : m = 0
  · subst h0
    rfl
  by_cases h4 : m = 4
  · subst h4
    rfl
  rw [if_neg (by omega), if_pos (by omega), if_neg h0, if_neg h4, Nat.add_sub_cancel_left]

/-! ### The machine -/

theorem run_boundary {n : Nat} (h : n < 256) (bs : Bytes) :
    State.run .boundary (n.toUInt8 :: bs) = (State.lead n).2 ++ State.run (State.lead n).1 bs := by
  rw [State.run, State.step, toNat_toUInt8 h]

/-- The decoder within a character goes on with a byte that continues it. -/
theorem run_within_succ {more low high value n : Nat} (hn : n < 0x40) (hl : low ≤ 0x80 + n)
    (hh : 0x80 + n ≤ high) (bs : Bytes) :
    State.run (.within (more + 1) low high value) ((0x80 + n).toUInt8 :: bs) =
      State.run (.within more 0x80 0xBF (value * 0x40 + n)) bs := by
  have hb : (0x80 + n).toUInt8.toNat = 0x80 + n := toNat_toUInt8 (by omega)
  have hm : (0x80 + n) % 0x40 = n := by omega
  simp only [State.run, State.step, hb, hm, hl, hh, and_self, ↓reduceIte, List.nil_append]

/-- The decoder within a character ends it with its last byte. -/
theorem run_within_zero {low high value n : Nat} (hn : n < 0x40) (hl : low ≤ 0x80 + n)
    (hh : 0x80 + n ≤ high) (bs : Bytes) :
    State.run (.within 0 low high value) ((0x80 + n).toUInt8 :: bs) =
      Char.ofNat (value * 0x40 + n) :: State.run .boundary bs := by
  have hb : (0x80 + n).toUInt8.toNat = 0x80 + n := toNat_toUInt8 (by omega)
  have hm : (0x80 + n) % 0x40 = n := by omega
  simp only [State.run, State.step, hb, hm, hl, hh, and_self, ↓reduceIte, List.cons_append,
    List.nil_append]

/-- The decoder reads a character and is at a boundary again. -/
theorem run_encodeChar (c : Char) (bs : Bytes) :
    State.run .boundary (encodeChar c ++ bs) = c :: State.run .boundary bs := by
  have hc := toNat_cases c
  -- by the number of bytes; the ranges of the second byte are where surrogates and overlong forms
  -- are ruled out, which a character has none of
  simp only [encodeChar]
  split
  · rename_i h1
    rw [List.cons_append, List.nil_append, run_boundary (by omega), lead_one h1]
    simp
  split
  · rename_i h1 h2
    rw [List.cons_append, List.cons_append, List.nil_append, run_boundary (by omega),
      lead_two (by omega) (by omega), List.nil_append,
      run_within_zero (by omega) (by omega) (by omega), ofNat_of_toNat (c := c) (by omega)]
  split
  · rename_i h1 h2 h3
    rw [List.cons_append, List.cons_append, List.cons_append, List.nil_append,
      run_boundary (by omega), lead_three (by omega), List.nil_append,
      run_within_succ (by omega) (by split <;> omega) (by split <;> omega),
      run_within_zero (by omega) (by omega) (by omega), ofNat_of_toNat (c := c) (by omega)]
  · rename_i h1 h2 h3
    rw [List.cons_append, List.cons_append, List.cons_append, List.cons_append, List.nil_append,
      run_boundary (by omega), lead_four (by omega), List.nil_append,
      run_within_succ (by omega) (by split <;> omega) (by split <;> omega),
      run_within_succ (by omega) (by omega) (by omega),
      run_within_zero (by omega) (by omega) (by omega), ofNat_of_toNat (c := c) (by omega)]

/-- The bytes of characters are decoded to them. -/
theorem run_flatMap_encodeChar (cs : List Char) :
    State.run .boundary (cs.flatMap encodeChar) = cs := by
  induction cs with
  | nil => rfl
  | cons c cs ih => rw [List.flatMap_cons, run_encodeChar, ih]

/-- **What was written is read back.** -/
theorem decode_encode (s : String) : decode (encode s) = s := by
  rw [decode, encode, run_flatMap_encodeChar, String.ofList_toList]

end Utf8

end Text

end Depository
