import SignedPurchase.Digest.Padding

/-
**The digests of the second secure hash family.**

Two word widths share one construction: a schedule extended from the block's sixteen words, and
rounds over eight chained words. `Digest.sha256` uses 32-bit words; `Digest.sha384` and
`Digest.sha512` use 64-bit words and differ in the state they start from and in what they keep.
-/

namespace SignedPurchase

namespace Digest

/-- Eight chained words. -/
structure Chained (word : Type) where
  a : word
  b : word
  c : word
  d : word
  e : word
  f : word
  g : word
  h : word

namespace Chained

/-- The words in order. -/
def toList {word : Type} (state : Chained word) : List word :=
  [state.a, state.b, state.c, state.d, state.e, state.f, state.g, state.h]

/-- Adds two states word by word. -/
def add {word : Type} [Add word] (left right : Chained word) : Chained word :=
  ⟨left.a + right.a, left.b + right.b, left.c + right.c, left.d + right.d,
    left.e + right.e, left.f + right.f, left.g + right.g, left.h + right.h⟩

end Chained

namespace Sha256

/-- The state before the first block. -/
def initial : Chained UInt32 :=
  ⟨0x6a09e667, 0xbb67ae85, 0x3c6ef372, 0xa54ff53a, 0x510e527f, 0x9b05688c, 0x1f83d9ab, 0x5be0cd19⟩

/-- The constants of the rounds. -/
def constants : List UInt32 :=
  [0x428a2f98, 0x71374491, 0xb5c0fbcf, 0xe9b5dba5, 0x3956c25b, 0x59f111f1,
    0x923f82a4, 0xab1c5ed5, 0xd807aa98, 0x12835b01, 0x243185be, 0x550c7dc3,
    0x72be5d74, 0x80deb1fe, 0x9bdc06a7, 0xc19bf174, 0xe49b69c1, 0xefbe4786,
    0x0fc19dc6, 0x240ca1cc, 0x2de92c6f, 0x4a7484aa, 0x5cb0a9dc, 0x76f988da,
    0x983e5152, 0xa831c66d, 0xb00327c8, 0xbf597fc7, 0xc6e00bf3, 0xd5a79147,
    0x06ca6351, 0x14292967, 0x27b70a85, 0x2e1b2138, 0x4d2c6dfc, 0x53380d13,
    0x650a7354, 0x766a0abb, 0x81c2c92e, 0x92722c85, 0xa2bfe8a1, 0xa81a664b,
    0xc24b8b70, 0xc76c51a3, 0xd192e819, 0xd6990624, 0xf40e3585, 0x106aa070,
    0x19a4c116, 0x1e376c08, 0x2748774c, 0x34b0bcb5, 0x391c0cb3, 0x4ed8aa4a,
    0x5b9cca4f, 0x682e6ff3, 0x748f82ee, 0x78a5636f, 0x84c87814, 0x8cc70208,
    0x90befffa, 0xa4506ceb, 0xbef9a3f7, 0xc67178f2]

/-- Rotation towards the least significant bit. -/
def rotate (word : UInt32) (count : UInt32) : UInt32 :=
  (word >>> count) ||| (word <<< (32 - count))

/-- The sixteen words of a block. -/
def words (block : Bytes) : Array UInt32 :=
  ((pieces 4 16 block).map fun piece => UInt32.ofNat (Bytes.toNat piece)).toArray

/-- Extends the schedule by so many words. -/
def extend : Nat → Array UInt32 → Array UInt32
  | 0, schedule => schedule
  | count + 1, schedule =>
    let size := schedule.size
    let early := schedule.getD (size - 15) 0
    let late := schedule.getD (size - 2) 0
    let fresh := schedule.getD (size - 16) 0 + (rotate early 7 ^^^ rotate early 18 ^^^ (early >>> 3)) +
      schedule.getD (size - 7) 0 + (rotate late 17 ^^^ rotate late 19 ^^^ (late >>> 10))
    extend count (schedule.push fresh)

/-- One round, with its constant and its scheduled word. -/
def round (state : Chained UInt32) (step : UInt32 × UInt32) : Chained UInt32 :=
  let choice := (state.e &&& state.f) ^^^ (~~~state.e &&& state.g)
  let majority := (state.a &&& state.b) ^^^ (state.a &&& state.c) ^^^ (state.b &&& state.c)
  let first := state.h + (rotate state.e 6 ^^^ rotate state.e 11 ^^^ rotate state.e 25) + choice +
    step.1 + step.2
  let second := (rotate state.a 2 ^^^ rotate state.a 13 ^^^ rotate state.a 22) + majority
  ⟨first + second, state.a, state.b, state.c, state.d + first, state.e, state.f, state.g⟩

/-- Chains one block. -/
def compress (state : Chained UInt32) (block : Bytes) : Chained UInt32 :=
  state.add ((constants.zip (extend 48 (words block)).toList).foldl round state)

end Sha256

/-- The 256-bit digest of a message. -/
def sha256 (message : Bytes) : Bytes :=
  ((blocks 64 8 message).foldl Sha256.compress Sha256.initial).toList.flatMap
    fun word => Bytes.ofNat 4 word.toNat

namespace Sha512

/-- The state before the first block, for the digest of full width. -/
def initial : Chained UInt64 :=
  ⟨0x6a09e667f3bcc908, 0xbb67ae8584caa73b, 0x3c6ef372fe94f82b, 0xa54ff53a5f1d36f1,
    0x510e527fade682d1, 0x9b05688c2b3e6c1f, 0x1f83d9abfb41bd6b, 0x5be0cd19137e2179⟩

/-- The state before the first block, for the 384-bit digest. -/
def initialShort : Chained UInt64 :=
  ⟨0xcbbb9d5dc1059ed8, 0x629a292a367cd507, 0x9159015a3070dd17, 0x152fecd8f70e5939,
    0x67332667ffc00b31, 0x8eb44a8768581511, 0xdb0c2e0d64f98fa7, 0x47b5481dbefa4fa4⟩

/-- The constants of the rounds. -/
def constants : List UInt64 :=
  [0x428a2f98d728ae22, 0x7137449123ef65cd, 0xb5c0fbcfec4d3b2f, 0xe9b5dba58189dbbc,
    0x3956c25bf348b538, 0x59f111f1b605d019, 0x923f82a4af194f9b, 0xab1c5ed5da6d8118,
    0xd807aa98a3030242, 0x12835b0145706fbe, 0x243185be4ee4b28c, 0x550c7dc3d5ffb4e2,
    0x72be5d74f27b896f, 0x80deb1fe3b1696b1, 0x9bdc06a725c71235, 0xc19bf174cf692694,
    0xe49b69c19ef14ad2, 0xefbe4786384f25e3, 0x0fc19dc68b8cd5b5, 0x240ca1cc77ac9c65,
    0x2de92c6f592b0275, 0x4a7484aa6ea6e483, 0x5cb0a9dcbd41fbd4, 0x76f988da831153b5,
    0x983e5152ee66dfab, 0xa831c66d2db43210, 0xb00327c898fb213f, 0xbf597fc7beef0ee4,
    0xc6e00bf33da88fc2, 0xd5a79147930aa725, 0x06ca6351e003826f, 0x142929670a0e6e70,
    0x27b70a8546d22ffc, 0x2e1b21385c26c926, 0x4d2c6dfc5ac42aed, 0x53380d139d95b3df,
    0x650a73548baf63de, 0x766a0abb3c77b2a8, 0x81c2c92e47edaee6, 0x92722c851482353b,
    0xa2bfe8a14cf10364, 0xa81a664bbc423001, 0xc24b8b70d0f89791, 0xc76c51a30654be30,
    0xd192e819d6ef5218, 0xd69906245565a910, 0xf40e35855771202a, 0x106aa07032bbd1b8,
    0x19a4c116b8d2d0c8, 0x1e376c085141ab53, 0x2748774cdf8eeb99, 0x34b0bcb5e19b48a8,
    0x391c0cb3c5c95a63, 0x4ed8aa4ae3418acb, 0x5b9cca4f7763e373, 0x682e6ff3d6b2b8a3,
    0x748f82ee5defb2fc, 0x78a5636f43172f60, 0x84c87814a1f0ab72, 0x8cc702081a6439ec,
    0x90befffa23631e28, 0xa4506cebde82bde9, 0xbef9a3f7b2c67915, 0xc67178f2e372532b,
    0xca273eceea26619c, 0xd186b8c721c0c207, 0xeada7dd6cde0eb1e, 0xf57d4f7fee6ed178,
    0x06f067aa72176fba, 0x0a637dc5a2c898a6, 0x113f9804bef90dae, 0x1b710b35131c471b,
    0x28db77f523047d84, 0x32caab7b40c72493, 0x3c9ebe0a15c9bebc, 0x431d67c49c100d4c,
    0x4cc5d4becb3e42b6, 0x597f299cfc657e2a, 0x5fcb6fab3ad6faec, 0x6c44198c4a475817]

/-- Rotation towards the least significant bit. -/
def rotate (word : UInt64) (count : UInt64) : UInt64 :=
  (word >>> count) ||| (word <<< (64 - count))

/-- The sixteen words of a block. -/
def words (block : Bytes) : Array UInt64 :=
  ((pieces 8 16 block).map fun piece => UInt64.ofNat (Bytes.toNat piece)).toArray

/-- Extends the schedule by so many words. -/
def extend : Nat → Array UInt64 → Array UInt64
  | 0, schedule => schedule
  | count + 1, schedule =>
    let size := schedule.size
    let early := schedule.getD (size - 15) 0
    let late := schedule.getD (size - 2) 0
    let fresh := schedule.getD (size - 16) 0 + (rotate early 1 ^^^ rotate early 8 ^^^ (early >>> 7)) +
      schedule.getD (size - 7) 0 + (rotate late 19 ^^^ rotate late 61 ^^^ (late >>> 6))
    extend count (schedule.push fresh)

/-- One round, with its constant and its scheduled word. -/
def round (state : Chained UInt64) (step : UInt64 × UInt64) : Chained UInt64 :=
  let choice := (state.e &&& state.f) ^^^ (~~~state.e &&& state.g)
  let majority := (state.a &&& state.b) ^^^ (state.a &&& state.c) ^^^ (state.b &&& state.c)
  let first := state.h + (rotate state.e 14 ^^^ rotate state.e 18 ^^^ rotate state.e 41) + choice +
    step.1 + step.2
  let second := (rotate state.a 28 ^^^ rotate state.a 34 ^^^ rotate state.a 39) + majority
  ⟨first + second, state.a, state.b, state.c, state.d + first, state.e, state.f, state.g⟩

/-- Chains one block. -/
def compress (state : Chained UInt64) (block : Bytes) : Chained UInt64 :=
  state.add ((constants.zip (extend 64 (words block)).toList).foldl round state)

/-- The bytes of the state after the last block, from the given first state. -/
def digestFrom (start : Chained UInt64) (message : Bytes) : Bytes :=
  ((blocks 128 16 message).foldl compress start).toList.flatMap fun word => Bytes.ofNat 8 word.toNat

end Sha512

/-- The 384-bit digest of a message. -/
def sha384 (message : Bytes) : Bytes :=
  (Sha512.digestFrom Sha512.initialShort message).take 48

/-- The 512-bit digest of a message. -/
def sha512 (message : Bytes) : Bytes :=
  Sha512.digestFrom Sha512.initial message

end Digest

end SignedPurchase
