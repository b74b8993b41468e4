import Specimen.Octets

/-!
# The SHA-256 digest

The message is filled up to whole blocks of sixty-four octets: an octet `0x80`, zeros, and the
length in bits. Each block is mixed into eight words in sixty-four rounds. A round uses the first
word of a window of sixteen, which then moves on by one.

* `length_digest` — a digest has thirty-two octets.
* `length_padded` — a message filled up consists of whole blocks.
-/

namespace Specimen.Sha256

/-- The eight words that carry the digest. -/
structure Chain where
  a : UInt32
  b : UInt32
  c : UInt32
  d : UInt32
  e : UInt32
  f : UInt32
  g : UInt32
  h : UInt32
  deriving DecidableEq, Repr

/-- The words before the first block. -/
def Chain.initial : Chain :=
  ⟨0x6A09E667, 0xBB67AE85, 0x3C6EF372, 0xA54FF53A, 0x510E527F, 0x9B05688C, 0x1F83D9AB,
    0x5BE0CD19⟩

/-- Adds word by word. -/
def Chain.add (x y : Chain) : Chain :=
  ⟨x.a + y.a, x.b + y.b, x.c + y.c, x.d + y.d, x.e + y.e, x.f + y.f, x.g + y.g, x.h + y.h⟩

/-- The constants of the rounds. -/
def roundConstants : List UInt32 :=
  [0x428A2F98, 0x71374491, 0xB5C0FBCF, 0xE9B5DBA5, 0x3956C25B, 0x59F111F1, 0x923F82A4, 0xAB1C5ED5,
    0xD807AA98, 0x12835B01, 0x243185BE, 0x550C7DC3, 0x72BE5D74, 0x80DEB1FE, 0x9BDC06A7, 0xC19BF174,
    0xE49B69C1, 0xEFBE4786, 0x0FC19DC6, 0x240CA1CC, 0x2DE92C6F, 0x4A7484AA, 0x5CB0A9DC, 0x76F988DA,
    0x983E5152, 0xA831C66D, 0xB00327C8, 0xBF597FC7, 0xC6E00BF3, 0xD5A79147, 0x06CA6351, 0x14292967,
    0x27B70A85, 0x2E1B2138, 0x4D2C6DFC, 0x53380D13, 0x650A7354, 0x766A0ABB, 0x81C2C92E, 0x92722C85,
    0xA2BFE8A1, 0xA81A664B, 0xC24B8B70, 0xC76C51A3, 0xD192E819, 0xD6990624, 0xF40E3585, 0x106AA070,
    0x19A4C116, 0x1E376C08, 0x2748774C, 0x34B0BCB5, 0x391C0CB3, 0x4ED8AA4A, 0x5B9CCA4F, 0x682E6FF3,
    0x748F82EE, 0x78A5636F, 0x84C87814, 0x8CC70208, 0x90BEFFFA, 0xA4506CEB, 0xBEF9A3F7, 0xC67178F2]

/-- Turns a word right by `k` bits, for `k` from 1 to 31. -/
def turn (k x : UInt32) : UInt32 :=
  (x >>> k) ||| (x <<< (32 - k))

/-- The word after a window of sixteen. -/
def nextWord (w : List UInt32) : UInt32 :=
  let x := w[14]?.getD 0
  let y := w[1]?.getD 0
  (turn 17 x ^^^ turn 19 x ^^^ (x >>> 10)) + w[9]?.getD 0 +
    (turn 7 y ^^^ turn 18 y ^^^ (y >>> 3)) + w.headD 0

/-- One round with a constant and a word. -/
def Chain.round (s : Chain) (k w : UInt32) : Chain :=
  let choice := (s.e &&& s.f) ^^^ ((0xFFFFFFFF ^^^ s.e) &&& s.g)
  let majority := (s.a &&& s.b) ^^^ (s.a &&& s.c) ^^^ (s.b &&& s.c)
  let t := s.h + (turn 6 s.e ^^^ turn 11 s.e ^^^ turn 25 s.e) + choice + k + w
  let u := (turn 2 s.a ^^^ turn 13 s.a ^^^ turn 22 s.a) + majority
  ⟨t + u, s.a, s.b, s.c, s.d + t, s.e, s.f, s.g⟩

/-- The rounds for the constants `ks` with a window of words. -/
def Chain.rounds (s : Chain) (w : List UInt32) : List UInt32 → Chain
  | [] => s
  | k :: ks => rounds (s.round k (w.headD 0)) (w.tail ++ [nextWord w]) ks

/-- Four octets each make a word, the high octet first. -/
def wordsOf : Octets → List UInt32
  | a :: b :: c :: d :: bs => (Octets.toNat [a, b, c, d]).toUInt32 :: wordsOf bs
  | _ => []

/-- The four octets of a word. -/
def octetsOf (w : UInt32) : Octets :=
  [(w >>> 24).toUInt8, (w >>> 16).toUInt8, (w >>> 8).toUInt8, w.toUInt8]

/-- Mixes a block into the words. -/
def Chain.absorb (s : Chain) (block : Octets) : Chain :=
  s.add (s.rounds (wordsOf block) roundConstants)

/-- Mixes `n` blocks of sixty-four octets into the words, one after another. -/
def Chain.absorbAll (s : Chain) : Nat → Octets → Chain
  | 0, _ => s
  | n + 1, bs => absorbAll (s.absorb (bs.take 64)) n (bs.drop 64)

/-- How many zeros fill up a message of `n` octets. -/
def zeros (n : Nat) : Nat :=
  (119 - n % 64) % 64

/-- A message filled up to whole blocks. -/
def padded (bs : Octets) : Octets :=
  let bits := 8 * bs.length
  bs ++ 0x80 :: List.replicate (zeros bs.length) 0 ++
    [56, 48, 40, 32, 24, 16, 8, 0].map fun k => (bits / Nat.pow 2 k).toUInt8

/-- The octets of the eight words. -/
def Chain.octets (s : Chain) : Octets :=
  [s.a, s.b, s.c, s.d, s.e, s.f, s.g, s.h].flatMap octetsOf

/-- The digest of a message. -/
def digest (bs : Octets) : Octets :=
  let p := padded bs
  (Chain.initial.absorbAll (p.length / 64) p).octets

theorem length_digest (bs : Octets) : (digest bs).length = 32 := by
  simp [digest, Chain.octets, octetsOf]

theorem length_padded (bs : Octets) : (padded bs).length % 64 = 0 := by
  simp only [padded, zeros, List.length_append, List.length_cons, List.length_replicate,
    List.length_map, List.length_nil]
  omega

end Specimen.Sha256
