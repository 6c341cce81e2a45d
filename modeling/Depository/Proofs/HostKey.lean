import Depository.HostKey
import Depository.Proofs.Text.Base64

/-!
# Pinned fingerprints

A fingerprint may be spelled in several ways: with blanks around it, with or without its mark, which
may be in any letter case, and with or without the padding of its digits.  All of them are compared
as the same text.  That text has the digest of a key in it, so what accepts two keys has accepted
two of one digest, however it is spelled.

* `HostKey.Spells` — the spellings of the fingerprint of a key;
* `HostKey.accepts_of_spells` — **every spelling accepts its key**;
* `HostKey.digest_eq_of_accepts` — **no text accepts keys of different digests**.
-/

namespace Depository

namespace HostKey

open Text (strip stripEnd isBlank)
open Text.Base64 (digit sextets encode encodeUnpadded)

/-- The text spells the fingerprint of the key: between blanks there is the mark in any letter case,
or none, and the digest of the key with or without padding. -/
def Spells (text : String) (key : Bytes) : Prop :=
  ∃ before digits : String, Text.trim text = before ++ digits ∧
    (before = "" ∨ before.toList.map Char.toUpper = mark.toList) ∧
    (digits = encode (Sha256.digestBytes key) ∨ digits = encodeUnpadded (Sha256.digestBytes key))

/-- The digits of a text, and what they may be padded with. -/
theorem digits_cases {bs : Bytes} {digits : String}
    (h : digits = encode bs ∨ digits = encodeUnpadded bs) :
    ∃ k, digits.toList = (sextets bs).map digit ++ List.replicate k '=' := by
  rcases h with rfl | rfl
  · exact ⟨_, String.toList_ofList⟩
  · exact ⟨0, by simp [encodeUnpadded]⟩

/-- No digit is taken for the colon of the mark. -/
theorem toUpper_digit_ne : ∀ n : Fin 64, (digit n).toUpper ≠ ':' := by decide

/-- Digits do not begin with the mark. -/
theorem withoutMark_digits (bs : Bytes) (k : Nat) :
    withoutMark ((sextets bs).map digit ++ List.replicate k '=') =
      (sextets bs).map digit ++ List.replicate k '=' := by
  refine if_neg fun hmark => ?_
  have hcolon : ':' ∈ mark.toList := by decide
  rw [← hmark] at hcolon
  obtain ⟨c, hc, hupper⟩ := List.mem_map.1 hcolon
  rcases List.mem_append.1 (List.mem_of_mem_take hc) with hc | hc
  · obtain ⟨n, hn, rfl⟩ := List.mem_map.1 hc
    exact toUpper_digit_ne ⟨n, Text.Base64.sextets_lt bs n hn⟩ hupper
  · rw [List.eq_of_mem_replicate hc] at hupper
    exact absurd hupper (by decide)

/-- The mark in any letter case is taken away. -/
theorem withoutMark_append {before : List Char} (h : before.map Char.toUpper = mark.toList)
    (rest : List Char) : withoutMark (before ++ rest) = rest := by
  have hlength : before.length = mark.toList.length := by
    rw [← h, List.length_map]
  have htake : (before ++ rest).take mark.toList.length = before := by
    rw [← hlength, List.take_left']
    rfl
  have hdrop : (before ++ rest).drop mark.toList.length = rest := by
    rw [← hlength, List.drop_left']
    rfl
  simp only [withoutMark, htake, if_pos h, hdrop]

/-- The padding is cut from digits, and nothing else. -/
theorem stripEnd_digits (bs : Bytes) (k : Nat) :
    stripEnd (· == '=') ((sextets bs).map digit ++ List.replicate k '=') =
      (sextets bs).map digit := by
  rw [Text.stripEnd_append fun c hc => beq_iff_eq.2 (List.eq_of_mem_replicate hc)]
  refine Text.stripEnd_eq_self fun c hc => ?_
  obtain ⟨n, hn, rfl⟩ := List.mem_map.1 hc
  exact beq_eq_false_iff_ne.2 (Text.Base64.digit_ne_padding (Text.Base64.sextets_lt bs n hn))

/-- **Every spelling is compared as the fingerprint.** -/
theorem normalize_of_spells {text : String} {key : Bytes} (h : Spells text key) :
    normalize text = fingerprint key := by
  obtain ⟨before, digits, htext, hbefore, hdigits⟩ := h
  obtain ⟨k, hk⟩ := digits_cases hdigits
  have hstrip : strip isBlank text.toList = before.toList ++ digits.toList := by
    rw [← String.toList_append, ← htext, Text.trim, String.toList_ofList]
  have hrest : withoutMark (strip isBlank text.toList) = digits.toList := by
    rw [hstrip]
    rcases hbefore with rfl | hmark
    · rw [hk]
      exact withoutMark_digits _ k
    · exact withoutMark_append hmark _
  simp only [normalize, hrest, hk, stripEnd_digits, fingerprint, encodeUnpadded]

/-- **Every spelling accepts its key.** -/
theorem accepts_of_spells {text : String} {key : Bytes} (h : Spells text key) :
    accepts text key = true :=
  beq_iff_eq.2 (normalize_of_spells h).symm

/-- A spelling is not empty. -/
theorem Spells.ne_empty {text : String} {key : Bytes} (h : Spells text key) : text ≠ "" := by
  rintro rfl
  obtain ⟨before, digits, htext, -, hdigits⟩ := h
  obtain ⟨k, hk⟩ := digits_cases hdigits
  have hnil : digits.toList = [] := by
    have hlists := congrArg String.toList htext
    rw [Text.trim_empty, String.toList_append] at hlists
    exact (List.append_eq_nil_iff.1 hlists.symm).2
  have hsextets : (sextets (Sha256.digestBytes key)).map digit = [] :=
    (List.append_eq_nil_iff.1 (hk.symm.trans hnil)).1
  -- the digest would be written as nothing is
  have hbytes : Sha256.digestBytes key = [] :=
    Text.Base64.encodeUnpadded_injective (congrArg String.ofList hsextets)
  have hlength := Sha256.length_digestBytes key
  rw [hbytes] at hlength
  cases hlength

/-- A fingerprint tells the digest of its key. -/
theorem digest_eq_of_fingerprint {key other : Bytes} (h : fingerprint key = fingerprint other) :
    Sha256.digestBytes key = Sha256.digestBytes other := by
  refine Text.Base64.encodeUnpadded_injective (String.toList_inj.1 ?_)
  have hlists := congrArg String.toList h
  rwa [fingerprint, fingerprint, String.toList_append, String.toList_append,
    List.append_cancel_left_eq] at hlists

/-- **No text accepts keys of different digests.** -/
theorem digest_eq_of_accepts {text : String} {key other : Bytes} (h : accepts text key = true)
    (h' : accepts text other = true) : Sha256.digestBytes key = Sha256.digestBytes other :=
  digest_eq_of_fingerprint ((beq_iff_eq.1 h).trans (beq_iff_eq.1 h').symm)

end HostKey

end Depository
