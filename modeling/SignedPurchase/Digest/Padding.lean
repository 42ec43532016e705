import SignedPurchase.Bytes

/-
**How a message is cut into blocks before it is digested.**

Every digest of this library first lengthens the message by the byte `80`, zero bytes and the
message's length in bits, so that the result fills whole blocks.
-/

namespace SignedPurchase

namespace Digest

/-- The message, the byte `80`, zero bytes, and the bit length in `lengthWidth` bytes. -/
def padded (blockWidth lengthWidth : Nat) (message : Bytes) : Bytes :=
  let used := message.length + 1 + lengthWidth
  let zeros := (blockWidth - used % blockWidth) % blockWidth
  message ++ 0x80 :: (List.replicate zeros 0 ++ Bytes.ofNat lengthWidth (message.length * 8))

/-- Cuts bytes into pieces of the given width; the count bounds how many. -/
def pieces (width : Nat) : (count : Nat) → Bytes → List Bytes
  | 0, _ => []
  | count + 1, bytes => bytes.take width :: pieces width count (bytes.drop width)

/-- The blocks of a message after padding. -/
def blocks (blockWidth lengthWidth : Nat) (message : Bytes) : List Bytes :=
  let whole := padded blockWidth lengthWidth message
  pieces blockWidth (whole.length / blockWidth) whole

/-- A padded message fills whole blocks. -/
theorem length_padded_mod (blockWidth lengthWidth : Nat) (message : Bytes) (wide : 0 < blockWidth)
    (size : (Bytes.ofNat lengthWidth (message.length * 8)).length = lengthWidth) :
    (padded blockWidth lengthWidth message).length % blockWidth = 0 := by
  simp only [padded, List.length_append, List.length_cons, List.length_replicate, size]
  generalize message.length = count
  have bound := Nat.mod_lt (count + 1 + lengthWidth) wide
  have parts := Nat.div_add_mod (count + 1 + lengthWidth) blockWidth
  by_cases exact : (count + 1 + lengthWidth) % blockWidth = 0
  · rw [exact, Nat.sub_zero, Nat.mod_self]
    have same : count + (0 + lengthWidth + 1) = count + 1 + lengthWidth := by omega
    rw [same, exact]
  · rw [Nat.mod_eq_of_lt (by omega : blockWidth - (count + 1 + lengthWidth) % blockWidth < blockWidth)]
    have same : count + (blockWidth - (count + 1 + lengthWidth) % blockWidth + lengthWidth + 1)
        = blockWidth * ((count + 1 + lengthWidth) / blockWidth + 1) := by
      rw [Nat.mul_add, Nat.mul_one]
      omega
    rw [same, Nat.mul_mod_right]

end Digest

end SignedPurchase
