import Depository.Text.Base64

/-!
# Base64 reads back what it wrote

The reader is lenient and the writer is not: `decode` takes texts that `encode` never gives.  On
those that it gives the two agree, whatever the number of bytes is and however they are padded
(`Base64.decode_encode`).  So no two sequences of bytes are written alike
(`Base64.encodeUnpadded_injective`).
-/

namespace Depository

namespace Text

namespace Base64

/-! ### Digits -/

/-- Of each value below 64: its digit is read as it, is not the padding, and is a small
character. -/
theorem digit_spec : ∀ n : Fin 64,
    value? (digit n) = some n.val ∧ digit n ≠ '=' ∧ (digit n).toNat < 256 := by
  decide

theorem value?_digit {n : Nat} (h : n < 64) : value? (digit n) = some n := (digit_spec ⟨n, h⟩).1

theorem digit_ne_padding {n : Nat} (h : n < 64) : digit n ≠ '=' := (digit_spec ⟨n, h⟩).2.1

theorem digit_toNat_lt {n : Nat} (h : n < 64) : (digit n).toNat < 256 := (digit_spec ⟨n, h⟩).2.2

theorem filterMap_digits {ns : List Nat} (h : ∀ n ∈ ns, n < 64) :
    (ns.map digit).filterMap value? = ns := by
  induction ns with
  | nil => rfl
  | cons n ns ih =>
    have hn : n < 64 := h n (List.mem_cons_self ..)
    have hns : ∀ m ∈ ns, m < 64 := fun m hm => h m (List.mem_cons_of_mem _ hm)
    rw [List.map_cons, List.filterMap_cons, value?_digit hn, ih hns]

/-- The digits end where the padding begins, if there is any. -/
theorem takeWhile_digits {ns : List Nat} (h : ∀ n ∈ ns, n < 64) (k : Nat) :
    (ns.map digit ++ List.replicate k '=').takeWhile (· ≠ '=') = ns.map digit := by
  induction ns with
  | nil => cases k <;> simp [List.replicate_succ]
  | cons n ns ih =>
    have hn : digit n ≠ '=' := digit_ne_padding (h n (List.mem_cons_self ..))
    have hns := ih fun m hm => h m (List.mem_cons_of_mem _ hm)
    rw [List.map_cons, List.cons_append, List.takeWhile_cons, if_pos (by simpa using hn), hns]

/-! ### Groups of six bits -/

theorem sextets_lt (bs : Bytes) : ∀ n ∈ sextets bs, n < 64 := by
  -- by groups of three bytes, as the writer takes them
  induction bs using sextets.induct with
  | case1 => simp [sextets]
  | case2 a =>
    have ha := a.toNat_lt
    simp only [sextets, List.mem_cons, List.not_mem_nil, or_false, forall_eq_or_imp, forall_eq]
    omega
  | case3 a b =>
    have ha := a.toNat_lt
    have hb := b.toNat_lt
    simp only [sextets, List.mem_cons, List.not_mem_nil, or_false, forall_eq_or_imp, forall_eq]
    omega
  | case4 a b c rest ih =>
    have ha := a.toNat_lt
    have hb := b.toNat_lt
    have hc := c.toNat_lt
    simp only [sextets, List.mem_cons, forall_eq_or_imp]
    exact ⟨by omega, by omega, by omega, by omega, ih⟩

/-- A number that is the value of a byte is that byte. -/
theorem toUInt8_eq {n : Nat} {b : UInt8} (h : n % 256 = b.toNat) : n.toUInt8 = b := by
  apply UInt8.toNat.inj
  rw [← h]
  rfl

theorem ofSextets_sextets (bs : Bytes) : ofSextets (sextets bs) = bs := by
  induction bs using sextets.induct with
  | case1 => rfl
  | case2 a =>
    have ha := a.toNat_lt
    simp only [sextets, ofSextets, List.cons.injEq, and_true]
    exact toUInt8_eq (by omega)
  | case3 a b =>
    have ha := a.toNat_lt
    have hb := b.toNat_lt
    simp only [sextets, ofSextets, List.cons.injEq, and_true]
    exact ⟨toUInt8_eq (by omega), toUInt8_eq (by omega)⟩
  | case4 a b c rest ih =>
    have ha := a.toNat_lt
    have hb := b.toNat_lt
    have hc := c.toNat_lt
    simp only [sextets, ofSextets, ih, List.cons.injEq, and_true]
    exact ⟨toUInt8_eq (by omega), toUInt8_eq (by omega), toUInt8_eq (by omega)⟩

/-! ### The round trip -/

/-- The digits are read back, however they are padded. -/
theorem decode_digits (bs : Bytes) (k : Nat) :
    decode (String.ofList ((sextets bs).map digit ++ List.replicate k '=')) = bs := by
  have hlt := sextets_lt bs
  have hsmall : ∀ c ∈ (sextets bs).map digit ++ List.replicate k '=', c.toNat < 256 := by
    intro c hc
    rcases List.mem_append.1 hc with hc | hc
    · obtain ⟨n, hn, rfl⟩ := List.mem_map.1 hc
      exact digit_toNat_lt (hlt n hn)
    · rw [List.eq_of_mem_replicate hc]
      decide
  rw [decode, lowChars_ofList hsmall, takeWhile_digits hlt, filterMap_digits hlt,
    ofSextets_sextets]

/-- **What was written is read back.** -/
theorem decode_encode (bs : Bytes) : decode (encode bs) = bs := decode_digits bs _

theorem decode_encodeUnpadded (bs : Bytes) : decode (encodeUnpadded bs) = bs := by
  simpa [encodeUnpadded] using decode_digits bs 0

/-- **No two sequences of bytes have the same digits.** -/
theorem encodeUnpadded_injective : Function.Injective encodeUnpadded :=
  Function.LeftInverse.injective decode_encodeUnpadded

end Base64

end Text

end Depository
