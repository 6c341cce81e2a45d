import Depository.Text.Utf8

/-!
# AES-256

The block cipher, in the direction of encryption, which is all that counter mode needs.

* `Aes.Block` — 16 bytes, column after column;
* `Aes.expand` — the fifteen round keys of a key;
* `Aes.encrypt` — the cipher.
-/

namespace Depository

namespace Aes

/-- A block of 16 bytes. -/
abbrev Block := Vector UInt8 16

/-! ### The field of 256 elements -/

/-- The product with the polynomial `x`. -/
def double (b : UInt8) : UInt8 := (b <<< 1) ^^^ (if b &&& 0x80 = 0 then 0 else 0x1b)

/-- The product of two elements, from the low eight bits of the second. -/
def multiply (a b : UInt8) : UInt8 :=
  ((List.range 8).foldl
    (fun (sum, a) i =>
      (if b >>> i.toUInt8 &&& 1 = 0 then sum else sum ^^^ a, double a)) ((0 : UInt8), a)).1

/-- The inverse of an element, and zero for zero: its power 254. -/
def inverse (a : UInt8) : UInt8 := Nat.repeat (multiply a) 254 1

/-- Rotation of a byte to the left. -/
def rotate (b n : UInt8) : UInt8 := (b <<< n) ||| (b >>> (8 - n))

/-- The substitution of a byte: its inverse under an affine map. -/
def substitution (b : UInt8) : UInt8 :=
  let i := inverse b
  i ^^^ rotate i 1 ^^^ rotate i 2 ^^^ rotate i 3 ^^^ rotate i 4 ^^^ 0x63

/-- The substitutions of all bytes. -/
def substitutions : Vector UInt8 256 := Vector.ofFn fun i => substitution i.val.toUInt8

/-- The substitution of a byte, from the table. -/
def substitute (b : UInt8) : UInt8 := substitutions.get ⟨b.toNat, b.toNat_lt⟩

/-! ### The round -/

/-- Row `r` moves `r` columns to the left. -/
def shiftRows (s : Block) : Block :=
  Vector.ofFn fun i => s[(i.val + 4 * (i.val % 4)) % 16]

/-- Every column is multiplied by the matrix of the cipher. -/
def mixColumns (s : Block) : Block :=
  Vector.ofFn fun i =>
    let column := i.val / 4 * 4
    let at_ := fun k => s[(column + (i.val + k) % 4) % 16]
    double (at_ 0) ^^^ (double (at_ 1) ^^^ at_ 1) ^^^ at_ 2 ^^^ at_ 3

/-- The block with a round key added. -/
def addKey (s key : Block) : Block := Vector.zipWith (· ^^^ ·) s key

/-! ### The key schedule -/

/-- A word of the schedule. -/
abbrev Word := Vector UInt8 4

/-- The constant of a round. -/
def roundConstant (n : Nat) : UInt8 := Nat.repeat double (n - 1) 1

/-- The word of index `i`, from the words before it, last first. -/
def nextWord (i : Nat) (before : List Word) : Word :=
  let last := before.headD (.replicate 4 0)
  let turned : Word :=
    if i % 8 = 0 then
      #v[substitute last[1] ^^^ roundConstant (i / 8), substitute last[2], substitute last[3],
        substitute last[0]]
    else if i % 8 = 4 then last.map substitute
    else last
  Vector.zipWith (· ^^^ ·) (before.getD 7 (.replicate 4 0)) turned

/-- The words from index `i` on put before those that are there, last first. -/
def extend : Nat → Nat → List Word → List Word
  | 0, _, before => before
  | n + 1, i, before => extend n (i + 1) (nextWord i before :: before)

/-- The words of the bytes of a key. -/
def keyWords : Bytes → List Word
  | a :: b :: c :: d :: rest => #v[a, b, c, d] :: keyWords rest
  | _ => []

/-- The round keys of words. -/
def roundKeys : List Word → List Block
  | a :: b :: c :: d :: rest => (a ++ b ++ c ++ d) :: roundKeys rest
  | _ => []

/-- The fifteen round keys of a key of 32 bytes. -/
def expand (key : Bytes) : List Block :=
  roundKeys (extend 52 8 (keyWords key).reverse).reverse

/-! ### The cipher -/

/-- The rounds after the first key; the last one does not mix the columns. -/
def rounds : List Block → Block → Block
  | [], s => s
  | [key], s => addKey (shiftRows (s.map substitute)) key
  | key :: rest, s => rounds rest (addKey (mixColumns (shiftRows (s.map substitute))) key)

/-- The cipher under a list of round keys. -/
def encryptWith (keys : List Block) (s : Block) : Block :=
  match keys with
  | [] => s
  | key :: rest => rounds rest (addKey s key)

/-- The cipher under a key. -/
def encrypt (key : Bytes) : Block → Block := encryptWith (expand key)

end Aes

end Depository
