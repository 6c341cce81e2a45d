import Depository.Cipher.Aes

/-!
# Galois/counter mode

Authenticated encryption from a block cipher: the text is combined with a key stream, and a tag of
16 bytes binds the ciphertext, the nonce and further data that is not encrypted.

* `Gcm.wrap` — the ciphertext and the tag;
* `Gcm.unwrap?` — the text, if the tag is the right one;
* `unwrap?_wrap` — a wrapped text unwraps to itself.
-/

namespace Depository

namespace Gcm

open Aes (Block)

/-- A block as a word, or a field element, of 128 bits, first byte highest. -/
abbrev Word := BitVec 128

/-- The word of up to 16 bytes, filled with zeros at its end. -/
def ofBytes (bs : Bytes) : Word :=
  BitVec.ofNat 128 ((bs ++ List.replicate (16 - bs.length) 0).foldl
    (fun n (b : UInt8) => n * 256 + b.toNat) 0)

/-- The bytes of a word. -/
def toBlock (w : Word) : Block :=
  Vector.ofFn fun i => ((w >>> (8 * (15 - i.val))).toNat).toUInt8

/-- The bytes of a word in a list. -/
def toBytes (w : Word) : Bytes := (toBlock w).toList

/-- The word of a block. -/
def ofBlock (b : Block) : Word := ofBytes b.toList

/-! ### The authentication -/

/-- A step of the product: adds `v` if the bit of `x` is set, and multiplies `v` by the variable. -/
def productStep (x : Word) (s : Word × Word) (i : Nat) : Word × Word :=
  (if x.getMsbD i then s.1 ^^^ s.2 else s.1,
    if s.2.getLsbD 0 then (s.2 >>> 1) ^^^ (0xe1#128 <<< 120) else s.2 >>> 1)

/-- The product of two field elements. -/
def product (x y : Word) : Word :=
  ((List.range 128).foldl (productStep x) (0, y)).1

/-- The first `n` pieces of 16 bytes. -/
def pieces : Nat → Bytes → List Bytes
  | 0, _ => []
  | n + 1, bs => bs.take 16 :: pieces n (bs.drop 16)

/-- The words of bytes, the last one filled with zeros. -/
def words (bs : Bytes) : List Word := (pieces ((bs.length + 15) / 16) bs).map ofBytes

/-- The hash of words under the key `h`. -/
def hash (h : Word) (ws : List Word) : Word := ws.foldl (fun sum w => product (sum ^^^ w) h) 0

/-- The word of two lengths in bits. -/
def lengths (a b : Nat) : Word := BitVec.ofNat 64 (a * 8) ++ BitVec.ofNat 64 (b * 8)

/-! ### The counter -/

variable (cipher : Block → Block)

/-- The key of the hash: the cipher of zeros. -/
def hashKey : Word := ofBlock (cipher (.replicate 16 0))

/-- The first counter of a nonce.  A nonce of twelve bytes is followed by the number one; another
one is hashed. -/
def firstCounter (nonce : Bytes) : Word :=
  if nonce.length = 12 then ofBytes (nonce ++ [0, 0, 0, 1])
  else hash (hashKey cipher) (words nonce ++ [lengths 0 nonce.length])

/-- The counter `n` steps later; only its last 32 bits count. -/
def later (counter : Word) (n : Nat) : Word :=
  (counter.extractLsb' 32 96) ++ (counter.extractLsb' 0 32 + BitVec.ofNat 32 n)

/-- The first `n` blocks of the key stream after a counter. -/
def keyStream (counter : Word) (n : Nat) : Bytes :=
  (List.range n).flatMap fun i => (cipher (toBlock (later counter (i + 1)))).toList

/-- The bytes combined with the key stream after a counter. -/
def combine (counter : Word) (bs : Bytes) : Bytes :=
  List.zipWith (· ^^^ ·) bs (keyStream cipher counter ((bs.length + 15) / 16))

/-- The tag of a ciphertext. -/
def tag (nonce additional ciphertext : Bytes) : Bytes :=
  let sum := hash (hashKey cipher)
    (words additional ++ words ciphertext ++ [lengths additional.length ciphertext.length])
  toBytes (sum ^^^ ofBlock (cipher (toBlock (firstCounter cipher nonce))))

/-- The ciphertext of a text. -/
def encrypt (nonce text : Bytes) : Bytes := combine cipher (firstCounter cipher nonce) text

/-- A ciphertext with its tag. -/
structure Wrapped where
  ciphertext : Bytes
  tag : Bytes
  deriving DecidableEq, Repr

/-- Encrypts a text and gives it its tag. -/
def wrap (nonce additional text : Bytes) : Wrapped :=
  let ciphertext := encrypt cipher nonce text
  ⟨ciphertext, tag cipher nonce additional ciphertext⟩

/-- Unwraps a text: the text, if the tag is that of the ciphertext. -/
def unwrap? (nonce additional : Bytes) (s : Wrapped) : Option Bytes :=
  if s.tag = tag cipher nonce additional s.ciphertext then
    some (encrypt cipher nonce s.ciphertext)
  else none

/-! ### A wrapped text unwraps to itself -/

@[simp] theorem length_tag (nonce additional ciphertext : Bytes) :
    (tag cipher nonce additional ciphertext).length = 16 := by
  simp [tag, toBytes]

theorem length_keyStream (counter : Word) (n : Nat) :
    (keyStream cipher counter n).length = 16 * n := by
  induction n with
  | zero => rfl
  | succ n ih =>
    rw [keyStream] at ih ⊢
    rw [List.range_succ, List.flatMap_append, List.length_append, ih]
    simp
    omega

@[simp] theorem length_combine (counter : Word) (bs : Bytes) :
    (combine cipher counter bs).length = bs.length := by
  simp only [combine, List.length_zipWith, length_keyStream]
  omega

theorem zipWith_xor_xor (xs ks : Bytes) (h : xs.length ≤ ks.length) :
    List.zipWith (· ^^^ ·) (List.zipWith (· ^^^ ·) xs ks) ks = xs := by
  induction xs generalizing ks with
  | nil => simp
  | cons x xs ih =>
    cases ks with
    | nil => simp at h
    | cons k ks =>
      simp only [List.zipWith_cons_cons, List.cons.injEq]
      refine ⟨by rw [UInt8.xor_assoc, UInt8.xor_self, UInt8.xor_zero], ih ks ?_⟩
      simpa using h

/-- Combining twice with one key stream gives the bytes back. -/
theorem combine_combine (counter : Word) (bs : Bytes) :
    combine cipher counter (combine cipher counter bs) = bs := by
  have h : combine cipher counter (combine cipher counter bs) =
      List.zipWith (· ^^^ ·) (combine cipher counter bs)
        (keyStream cipher counter ((bs.length + 15) / 16)) := by
    simp [combine, length_keyStream]
    congr 2
    omega
  rw [h, combine]
  exact zipWith_xor_xor _ _ (by rw [length_keyStream]; omega)

/-- A wrapped text unwraps to itself. -/
theorem unwrap?_wrap (nonce additional text : Bytes) :
    unwrap? cipher nonce additional (wrap cipher nonce additional text) = some text := by
  simp [unwrap?, wrap, encrypt, combine_combine]

end Gcm

end Depository
