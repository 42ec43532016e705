/-
**Byte sequences and the numbers they spell.**

A byte sequence is a list, so that every reader of this library is a function on lists. Numbers are
written in both byte orders:

* `Bytes.toNat`, `Bytes.ofNat`: most significant byte first, the order of signatures and digests;
* `Bytes.toNatLittle`, `Bytes.ofNatLittle`: least significant byte first, the order of Edwards
  curve encodings.
-/

namespace SignedPurchase

/-- A sequence of bytes. -/
abbrev Bytes := List UInt8

namespace Bytes

/-- The number spelled by the bytes, most significant byte first. -/
def toNat (bytes : Bytes) : Nat :=
  bytes.foldl (fun value byte => value * 256 + byte.toNat) 0

/-- Puts the low `width` bytes of a number in front of `tail`, most significant byte first. -/
def ofNatOnto : Nat → Nat → Bytes → Bytes
  | 0, _, tail => tail
  | width + 1, value, tail => ofNatOnto width (value / 256) (UInt8.ofNat value :: tail)

/-- The low `width` bytes of a number, most significant byte first. -/
def ofNat (width value : Nat) : Bytes :=
  ofNatOnto width value []

/-- The number spelled by the bytes, least significant byte first. -/
def toNatLittle (bytes : Bytes) : Nat :=
  bytes.foldr (fun byte value => value * 256 + byte.toNat) 0

/-- The low `width` bytes of a number, least significant byte first. -/
def ofNatLittle : Nat → Nat → Bytes
  | 0, _ => []
  | width + 1, value => UInt8.ofNat value :: ofNatLittle width (value / 256)

/-- Splits off exactly `count` bytes, or nothing when there are fewer. -/
def split? : Nat → Bytes → Option (Bytes × Bytes)
  | 0, bytes => some ([], bytes)
  | _ + 1, [] => none
  | count + 1, byte :: bytes =>
    match split? count bytes with
    | some (front, rest) => some (byte :: front, rest)
    | none => none

/-- What is cut off in front is what was asked for, and nothing is lost. -/
theorem split?_eq_some {count : Nat} {bytes front rest : Bytes}
    (found : split? count bytes = some (front, rest)) :
    front.length = count ∧ bytes = front ++ rest := by
  induction count generalizing bytes front with
  | zero => simp_all [split?]
  | succ count ih =>
    cases bytes with
    | nil => simp [split?] at found
    | cons byte bytes =>
      simp only [split?] at found
      split at found
      · rename_i shorter remaining cut
        simp only [Option.some.injEq, Prod.mk.injEq] at found
        obtain ⟨rfl, rfl⟩ := found
        obtain ⟨size, rfl⟩ := ih cut
        simp [size]
      · simp at found

end Bytes

end SignedPurchase
