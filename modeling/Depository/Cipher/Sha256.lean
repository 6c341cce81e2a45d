import Depository.Text.Utf8

/-!
# SHA-256

The digest of a string of bytes, and the two constructions on it that derive keys.

* `Sha256.digest` — the digest, as its eight words: 32 bytes by `digestBytes`;
* `Sha256.hmac` — the keyed digest;
* `Sha256.derive` — extract and expand a key of 32 bytes from a secret, a salt and a purpose.
-/

namespace Depository

namespace Sha256

/-- The chaining state: eight words of 32 bits. -/
abbrev State := Vector UInt32 8

/-- The first 32 bits of the fractional parts of the square roots of the first eight primes. -/
def initial : State := #v[
  0x6a09e667, 0xbb67ae85, 0x3c6ef372, 0xa54ff53a, 0x510e527f, 0x9b05688c, 0x1f83d9ab, 0x5be0cd19]

/-- The first 32 bits of the fractional parts of the cube roots of the first 64 primes. -/
def constants : List UInt32 := [
  0x428a2f98, 0x71374491, 0xb5c0fbcf, 0xe9b5dba5, 0x3956c25b, 0x59f111f1, 0x923f82a4, 0xab1c5ed5,
  0xd807aa98, 0x12835b01, 0x243185be, 0x550c7dc3, 0x72be5d74, 0x80deb1fe, 0x9bdc06a7, 0xc19bf174,
  0xe49b69c1, 0xefbe4786, 0x0fc19dc6, 0x240ca1cc, 0x2de92c6f, 0x4a7484aa, 0x5cb0a9dc, 0x76f988da,
  0x983e5152, 0xa831c66d, 0xb00327c8, 0xbf597fc7, 0xc6e00bf3, 0xd5a79147, 0x06ca6351, 0x14292967,
  0x27b70a85, 0x2e1b2138, 0x4d2c6dfc, 0x53380d13, 0x650a7354, 0x766a0abb, 0x81c2c92e, 0x92722c85,
  0xa2bfe8a1, 0xa81a664b, 0xc24b8b70, 0xc76c51a3, 0xd192e819, 0xd6990624, 0xf40e3585, 0x106aa070,
  0x19a4c116, 0x1e376c08, 0x2748774c, 0x34b0bcb5, 0x391c0cb3, 0x4ed8aa4a, 0x5b9cca4f, 0x682e6ff3,
  0x748f82ee, 0x78a5636f, 0x84c87814, 0x8cc70208, 0x90befffa, 0xa4506ceb, 0xbef9a3f7, 0xc67178f2]

/-- Rotation to the right. -/
def rotate (x n : UInt32) : UInt32 := (x >>> n) ||| (x <<< (32 - n))

/-- The four bytes of a word, high byte first. -/
def wordBytes (w : UInt32) : Bytes :=
  [(w >>> 24).toUInt8, (w >>> 16).toUInt8, (w >>> 8).toUInt8, w.toUInt8]

/-- The words of bytes, high byte first. -/
def words : Bytes → List UInt32
  | a :: b :: c :: d :: rest =>
    ((a.toUInt32 <<< 24) ||| (b.toUInt32 <<< 16) ||| (c.toUInt32 <<< 8) ||| d.toUInt32) ::
      words rest
  | _ => []

/-- The message with the closing bit, zeros, and its length in bits in the last eight bytes, which
fill whole blocks of 64 bytes. -/
def pad (message : Bytes) : Bytes :=
  let n := message.length
  let bits := n * 8
  let lengthBytes : Bytes :=
    (List.range 8).map fun i => (bits >>> (8 * (7 - i))).toUInt8
  message ++ [0x80] ++ List.replicate ((119 - n % 64) % 64) 0 ++ lengthBytes

/-- The next word of the schedule, from the words before it, last first. -/
def nextWord (before : List UInt32) : UInt32 :=
  let w := fun i => before.getD (i - 1) 0
  let s0 := rotate (w 15) 7 ^^^ rotate (w 15) 18 ^^^ (w 15 >>> 3)
  let s1 := rotate (w 2) 17 ^^^ rotate (w 2) 19 ^^^ (w 2 >>> 10)
  w 16 + s0 + w 7 + s1

/-- The 64 words of the schedule of a block of 16 words. -/
def schedule (block : List UInt32) : List UInt32 :=
  (Nat.repeat (fun before => nextWord before :: before) 48 block.reverse).reverse

/-- One round, with its constant and its word. -/
def round (s : State) (k w : UInt32) : State :=
  let a := s[0]
  let e := s[4]
  let s1 := rotate e 6 ^^^ rotate e 11 ^^^ rotate e 25
  let choice := (e &&& s[5]) ^^^ (~~~e &&& s[6])
  let t1 := s[7] + s1 + choice + k + w
  let s0 := rotate a 2 ^^^ rotate a 13 ^^^ rotate a 22
  let majority := (a &&& s[1]) ^^^ (a &&& s[2]) ^^^ (s[1] &&& s[2])
  #v[t1 + s0 + majority, a, s[1], s[2], s[3] + t1, e, s[5], s[6]]

/-- Takes a block of 16 words. -/
def compress (s : State) (block : List UInt32) : State :=
  let t := (constants.zip (schedule block)).foldl (fun s (k, w) => round s k w) s
  Vector.zipWith (· + ·) s t

/-- The first `n` blocks of 16 words. -/
def blocks : Nat → List UInt32 → List (List UInt32)
  | 0, _ => []
  | n + 1, ws => ws.take 16 :: blocks n (ws.drop 16)

/-- The digest of a message. -/
def digest (message : Bytes) : State :=
  let ws := words (pad message)
  (blocks (ws.length / 16) ws).foldl compress initial

/-- The digest as 32 bytes. -/
def digestBytes (message : Bytes) : Bytes := (digest message).toList.flatMap wordBytes

/-- The size of a block in bytes. -/
def blockSize : Nat := 64

/-- The digest of a message under a key. -/
def hmac (key message : Bytes) : Bytes :=
  let short := if blockSize < key.length then digestBytes key else key
  let full := short ++ List.replicate (blockSize - short.length) 0
  digestBytes (full.map (· ^^^ 0x5c) ++ digestBytes (full.map (· ^^^ 0x36) ++ message))

/-- The key of 32 bytes that a secret gives for a salt and a purpose. -/
def derive (secret salt purpose : Bytes) : Bytes := hmac (hmac salt secret) (purpose ++ [1])

theorem length_flatMap_wordBytes (ws : List UInt32) :
    (ws.flatMap wordBytes).length = 4 * ws.length := by
  induction ws with
  | nil => rfl
  | cons w ws ih => simp only [List.flatMap_cons, List.length_append, ih, wordBytes,
      List.length_cons, List.length_nil]; omega

@[simp] theorem length_digestBytes (message : Bytes) : (digestBytes message).length = 32 := by
  rw [digestBytes, length_flatMap_wordBytes, Vector.length_toList]

@[simp] theorem length_derive (secret salt purpose : Bytes) :
    (derive secret salt purpose).length = 32 := by
  simp [derive, hmac]

end Sha256

end Depository
