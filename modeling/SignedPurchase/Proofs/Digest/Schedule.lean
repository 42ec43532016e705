import SignedPurchase.Digest.Sha2

/-
**The schedule of a digest, latest word first.**

A schedule grows at its end and only its latest sixteen words are ever looked at. Kept with the latest
word first it is a list that grows at its head, and a digest can be evaluated inside a proof.

* `Sha256.toList_extend`: the two schedules are each other's reverse;
* `sha256_eq_foldl`: the digest with the list for its schedule.
-/

namespace SignedPurchase

namespace Digest

namespace Sha256

/-- Extends a schedule that has its latest word first. -/
def extendLatest : Nat → List UInt32 → List UInt32
  | 0, latest => latest
  | count + 1, latest =>
    let early := latest.getD 14 0
    let late := latest.getD 1 0
    let fresh := latest.getD 15 0 + (rotate early 7 ^^^ rotate early 18 ^^^ (early >>> 3)) +
      latest.getD 6 0 + (rotate late 17 ^^^ rotate late 19 ^^^ (late >>> 10))
    extendLatest count (fresh :: latest)

/-- Chains one block, with the list for its schedule. -/
def compressLatest (state : Chained UInt32) (block : Bytes) : Chained UInt32 :=
  state.add ((constants.zip (extendLatest 48 (words block).toList.reverse).reverse).foldl round state)

variable {schedule : Array UInt32} {place : Nat}

/-- A word counted from the end. -/
theorem getD_latest (within : place < schedule.size) :
    schedule.getD (schedule.size - (place + 1)) 0 = schedule.toList.reverse.getD place 0 := by
  have counted : schedule.size - 1 - place = schedule.size - (place + 1) := by omega
  rw [Array.getD_eq_getD_getElem?, List.getD_eq_getElem?_getD,
    List.getElem?_reverse (by simpa using within), Array.length_toList, counted,
    Array.getElem?_toList]

/-- **The two schedules are each other's reverse.** -/
theorem toList_extend {count : Nat} (enough : 16 ≤ schedule.size) :
    (extend count schedule).toList = (extendLatest count schedule.toList.reverse).reverse := by
  induction count generalizing schedule with
  | zero => rw [extend, extendLatest, List.reverse_reverse]
  | succ count ih =>
    rw [extend, extendLatest, ih (by rw [Array.size_push]; omega), Array.toList_push,
      List.reverse_append, List.reverse_singleton, List.singleton_append]
    have word : ∀ place < 16, schedule.getD (schedule.size - (place + 1)) 0 =
        schedule.toList.reverse.getD place 0 :=
      fun place bound => getD_latest (Nat.lt_of_lt_of_le bound enough)
    simp only [word 15 (by decide), word 14 (by decide), word 6 (by decide), word 1 (by decide)]

theorem compress_eq_compressLatest : compress = compressLatest := by
  funext state block
  have enough : 16 ≤ (words block).size := by simp [words, pieces]
  rw [compress, compressLatest, toList_extend enough]

end Sha256

theorem sha256_eq_foldl (message : Bytes) :
    sha256 message = ((blocks 64 8 message).foldl Sha256.compressLatest
      Sha256.initial).toList.flatMap fun word => Bytes.ofNat 4 word.toNat := by
  rw [sha256, Sha256.compress_eq_compressLatest]

end Digest

end SignedPurchase
