import SignedPurchase.Digest.Padding

/-
**The 160-bit digest that old certificate signatures use.**
-/

namespace SignedPurchase

namespace Digest

namespace Sha1

/-- The five chained words. -/
structure State where
  a : UInt32
  b : UInt32
  c : UInt32
  d : UInt32
  e : UInt32

/-- The state before the first block. -/
def initial : State :=
  ⟨0x67452301, 0xEFCDAB89, 0x98BADCFE, 0x10325476, 0xC3D2E1F0⟩

/-- Rotation towards the most significant bit. -/
def rotate (word : UInt32) (count : UInt32) : UInt32 :=
  (word <<< count) ||| (word >>> (32 - count))

/-- The sixteen words of a block. -/
def words (block : Bytes) : Array UInt32 :=
  ((pieces 4 16 block).map fun piece => UInt32.ofNat (Bytes.toNat piece)).toArray

/-- Extends the schedule by so many words. -/
def extend : Nat → Array UInt32 → Array UInt32
  | 0, schedule => schedule
  | count + 1, schedule =>
    let size := schedule.size
    let mixed := schedule.getD (size - 3) 0 ^^^ schedule.getD (size - 8) 0 ^^^
      schedule.getD (size - 14) 0 ^^^ schedule.getD (size - 16) 0
    extend count (schedule.push (rotate mixed 1))

/-- The mixing function and the constant of a round. -/
def mixing (round : Nat) (state : State) : UInt32 × UInt32 :=
  if round < 20 then ((state.b &&& state.c) ||| (~~~state.b &&& state.d), 0x5A827999)
  else if round < 40 then (state.b ^^^ state.c ^^^ state.d, 0x6ED9EBA1)
  else if round < 60 then
    ((state.b &&& state.c) ||| (state.b &&& state.d) ||| (state.c &&& state.d), 0x8F1BBCDC)
  else (state.b ^^^ state.c ^^^ state.d, 0xCA62C1D6)

/-- One round, with its number and its scheduled word. -/
def round (state : State) (step : UInt32 × Nat) : State :=
  let (mixed, constant) := mixing step.2 state
  let fresh := rotate state.a 5 + mixed + state.e + constant + step.1
  ⟨fresh, state.a, rotate state.b 30, state.c, state.d⟩

/-- Chains one block. -/
def compress (state : State) (block : Bytes) : State :=
  let after := (extend 64 (words block)).toList.zipIdx.foldl round state
  ⟨state.a + after.a, state.b + after.b, state.c + after.c, state.d + after.d, state.e + after.e⟩

end Sha1

/-- The 160-bit digest of a message. -/
def sha1 (message : Bytes) : Bytes :=
  let last := (blocks 64 8 message).foldl Sha1.compress Sha1.initial
  [last.a, last.b, last.c, last.d, last.e].flatMap fun word => Bytes.ofNat 4 word.toNat

end Digest

end SignedPurchase
