/-!
# Blank characters and trimming

The blanks are the ASCII controls TAB to CR, the space, every Unicode space separator, the two
line separators and the byte order mark.  U+0085, U+180E and U+200B are not blank.

* `isBlank` — the class;
* `trim` — a text without the blanks at its two ends (`trim_trim`: a trimmed text stays as it is).
-/

namespace Depository

namespace Text

/-- The blanks: controls U+0009 to U+000D, space separators, U+2028, U+2029 and U+FEFF. -/
def isBlank (c : Char) : Bool :=
  let n := c.toNat
  (0x9 ≤ n && n ≤ 0xD) || n == 0x20 || n == 0xA0 || n == 0x1680 || (0x2000 ≤ n && n ≤ 0x200A) ||
    n == 0x2028 || n == 0x2029 || n == 0x202F || n == 0x205F || n == 0x3000 || n == 0xFEFF

/-- The characters from the first one outside the class `p` to the last one outside it. -/
def strip (p : Char → Bool) (cs : List Char) : List Char :=
  ((cs.dropWhile p).reverse.dropWhile p).reverse

/-- The text without the characters of the class `p` at its end. -/
def stripEnd (p : Char → Bool) (cs : List Char) : List Char :=
  (cs.reverse.dropWhile p).reverse

/-- The text without the blanks at its ends. -/
def trim (s : String) : String := String.ofList (strip isBlank s.toList)

/-! ### What is cut from the end -/

theorem stripEnd_append {p : Char → Bool} {last : List Char} (h : ∀ c ∈ last, p c = true)
    (cs : List Char) : stripEnd p (cs ++ last) = stripEnd p cs := by
  have hlast : ∀ c ∈ last.reverse, p c = true := fun c hc => h c (List.mem_reverse.1 hc)
  rw [stripEnd, stripEnd, List.reverse_append, List.dropWhile_append_of_pos hlast]

/-- What is cut from the end of a text is all of the class. -/
theorem exists_eq_stripEnd_append (p : Char → Bool) (cs : List Char) :
    ∃ last, (∀ c ∈ last, p c = true) ∧ cs = stripEnd p cs ++ last := by
  refine ⟨(cs.reverse.takeWhile p).reverse, fun c hc => ?_, ?_⟩
  · exact List.all_eq_true.1 List.all_takeWhile c (List.mem_reverse.1 hc)
  · rw [stripEnd, ← List.reverse_append, List.takeWhile_append_dropWhile, List.reverse_reverse]

/-- Nothing is cut from a text without characters of the class. -/
theorem stripEnd_eq_self {p : Char → Bool} {cs : List Char} (h : ∀ c ∈ cs, p c = false) :
    stripEnd p cs = cs := by
  obtain ⟨last, hlast, hcs⟩ := exists_eq_stripEnd_append p cs
  cases last with
  | nil => exact (hcs.trans (List.append_nil _)).symm
  | cons c last =>
    have hc : p c = true := hlast c (by simp)
    rw [h c (by rw [hcs]; simp)] at hc
    cases hc

/-! ### Stripping twice -/

theorem dropWhile_dropWhile (p : Char → Bool) (cs : List Char) :
    (cs.dropWhile p).dropWhile p = cs.dropWhile p := by
  induction cs with
  | nil => rfl
  | cons c cs ih =>
    by_cases h : p c
    · simpa [h] using ih
    · simp [h]

/-- A list of which no first character is in the class keeps it when it is cut at the end. -/
theorem dropWhile_stripEnd {p : Char → Bool} {cs : List Char} (h : cs.dropWhile p = cs) :
    (stripEnd p cs).dropWhile p = stripEnd p cs := by
  cases cs with
  | nil => rfl
  | cons c cs =>
    have hc : p c = false := by
      cases hp : p c with
      | false => rfl
      | true =>
        have hlen := congrArg List.length h
        rw [List.dropWhile_cons, if_pos hp] at hlen
        have := (List.dropWhile_sublist p (l := cs)).length_le
        simp only [List.length_cons] at hlen
        omega
    have : stripEnd p (c :: cs) = c :: stripEnd p cs := by
      simp only [stripEnd, List.reverse_cons, List.dropWhile_append]
      split
      · next hnil => simp_all
      · simp
    rw [this, List.dropWhile_cons, hc]
    rfl

theorem stripEnd_stripEnd (p : Char → Bool) (cs : List Char) :
    stripEnd p (stripEnd p cs) = stripEnd p cs := by
  simp [stripEnd, dropWhile_dropWhile]

theorem strip_strip (p : Char → Bool) (cs : List Char) : strip p (strip p cs) = strip p cs := by
  have h : strip p cs = stripEnd p (cs.dropWhile p) := rfl
  have hd : (strip p cs).dropWhile p = strip p cs := by
    rw [h]; exact dropWhile_stripEnd (dropWhile_dropWhile p cs)
  change stripEnd p ((strip p cs).dropWhile p) = strip p cs
  rw [hd, h, stripEnd_stripEnd]

/-- Trimming a trimmed text changes nothing. -/
@[simp] theorem trim_trim (s : String) : trim (trim s) = trim s := by
  simp [trim, strip_strip]

@[simp] theorem trim_empty : trim "" = "" := rfl

end Text

end Depository
