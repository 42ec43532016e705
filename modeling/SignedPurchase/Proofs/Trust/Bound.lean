import Mathlib.Logic.Relation
import SignedPurchase.Proofs.Trust.Rollover

/-
**The limit on the steps of a walk.**

A walk goes on from a certificate in one way only, whatever was checked before. If it comes back to a
certificate it goes round for ever, and never arrives; if it does not, it has no more steps than there are
certificates. So a limit beyond their number refuses no walk that would arrive.

* `GoesOn` is one step as the names lead it, `EntersCycle` a walk that comes back;
* `Walk.not_entersCycle`: a walk that arrives never comes back;
* `entersCycle_of_tooLong`: a walk that is refused for its length does;
* `limit_immaterial` puts this together.
-/

namespace SignedPurchase

open Relation

/-- The certificate from which a walk goes on next: it is at neither the anchor nor what the anchor
issued, and the first that bears the issuer's name is tried. -/
structure GoesOn (intermediates : List Presented) (anchor current issuer : Presented) : Prop where
  other : current.bytes ≠ anchor.bytes
  unnamed : current.certificate.namesIssuer anchor.certificate = false
  found : intermediates.find? (fun candidate =>
    current.certificate.namesIssuer candidate.certificate) = some issuer

/-- The walk from a certificate comes to one from which it comes back to it. -/
def EntersCycle (intermediates : List Presented) (anchor start : Presented) : Prop :=
  ∃ knot, ReflTransGen (GoesOn intermediates anchor) start knot ∧
    TransGen (GoesOn intermediates anchor) knot knot

variable {intermediates visited : List Presented} {anchor current start issuer : Presented}
  {time : CertificateTime} {below : Nat}

/-! ### Walks that arrive -/

namespace Walk

/-- A walk that arrives goes on as the names lead it. -/
theorem exists_rest (walked : Walk intermediates anchor time current below visited)
    (on : GoesOn intermediates anchor current issuer) :
    ∃ below rest, Walk intermediates anchor time issuer below rest ∧ visited = issuer :: rest := by
  cases walked with
  | arrived same => exact absurd same on.other
  | anchored _ named _ =>
    rw [on.unnamed] at named
    cases named
  | onward _ _ found _ rest =>
    rw [on.found] at found
    cases found
    exact ⟨_, _, rest, rfl⟩

/-- From all that the names lead to, a walk that arrives does so, and in fewer steps. -/
theorem exists_shorter {later : Presented}
    (walked : Walk intermediates anchor time current below visited)
    (leads : TransGen (GoesOn intermediates anchor) current later) :
    ∃ below rest, Walk intermediates anchor time later below rest ∧
      rest.length < visited.length := by
  induction leads with
  | single on =>
    obtain ⟨below, rest, later, rfl⟩ := walked.exists_rest on
    exact ⟨below, rest, later, Nat.lt_succ_self _⟩
  | tail _ on ih =>
    obtain ⟨_, between, walked, shorter⟩ := ih
    obtain ⟨below, rest, later, rfl⟩ := walked.exists_rest on
    exact ⟨below, rest, later, (Nat.lt_succ_self _).trans shorter⟩

/-- **A walk that arrives never comes back**: from where it came back it would be shorter than itself. -/
theorem not_entersCycle (walked : Walk intermediates anchor time start below visited) :
    ¬ EntersCycle intermediates anchor start := by
  rintro ⟨knot, leads, round⟩
  have here : ∃ below rest, Walk intermediates anchor time knot below rest := by
    rcases reflTransGen_iff_eq_or_transGen.mp leads with rfl | leads
    · exact ⟨_, _, walked⟩
    · obtain ⟨below, rest, walked, _⟩ := walked.exists_shorter leads
      exact ⟨below, rest, walked⟩
  obtain ⟨_, rest, walked⟩ := here
  obtain ⟨_, again, other, shorter⟩ := walked.exists_shorter round
  rw [walked.unique other] at shorter
  exact Nat.lt_irrefl _ shorter

end Walk

/-! ### Walks that are too long -/

theorem checkUsable_ne_tooLong {certificate : Certificate} {limit : Nat} :
    checkUsable certificate time ≠ .error (.tooLong limit) := by
  unfold checkUsable
  repeat' split
  all_goals nofun

/-- No check of two certificates complains of the length of the walk. -/
theorem checkStep_ne_tooLong {certificate issuer : Certificate} {limit : Nat} :
    checkStep certificate issuer time below ≠ .error (.tooLong limit) := by
  unfold checkStep checkSignature
  split
  · unfold checkIssuer
    split
    · unfold checkAuthority
      repeat' split
      all_goals nofun
    · next fault unusable =>
      intro long
      exact checkUsable_ne_tooLong (unusable.trans long)
  · next fault unsigned =>
    intro long
    rw [long] at unsigned
    split at unsigned
    all_goals cases unsigned

/-- A walk that uses up its steps has gone on so many times. -/
theorem exists_trail {limit steps : Nat}
    (long : walk intermediates anchor time limit steps current below = .error (.tooLong limit)) :
    ∃ trail : List Presented, (current :: trail).IsChain (GoesOn intermediates anchor) ∧
      trail ⊆ intermediates ∧ trail.length = steps := by
  induction steps generalizing current below with
  | zero => exact ⟨[], .singleton _, List.nil_subset _, rfl⟩
  | succ steps ih =>
    rw [walk] at long
    split at long
    · cases long
    · next other =>
      split at long
      · exact absurd long checkStep_ne_tooLong
      · next unnamed =>
        split at long
        · cases long
        · next issuer found =>
          split at long
          · obtain ⟨trail, chained, within, length⟩ := ih long
            refine ⟨issuer :: trail, .cons_cons ⟨other, Bool.eq_false_iff.mpr unnamed, found⟩ chained,
              List.cons_subset.mpr ⟨List.mem_of_find?_eq_some found, within⟩, ?_⟩
            rw [List.length_cons, length]
          · next fault step =>
            cases long
            exact absurd step checkStep_ne_tooLong

/-- **Only a walk that comes back is refused for its length**, when the limit is beyond the number of
certificates. A trail without repetitions would be no longer than they are many. -/
theorem entersCycle_of_tooLong {steps : Nat} (many : intermediates.length < steps)
    (long : verifyPathWithin steps start intermediates anchor time = .error (.tooLong steps)) :
    EntersCycle intermediates anchor start := by
  have walked : walk intermediates anchor time steps steps start 0 = .error (.tooLong steps) := by
    unfold verifyPathWithin at long
    split at long
    · exact long
    · next fault unusable =>
      cases long
      exact absurd unusable checkUsable_ne_tooLong
  obtain ⟨trail, chained, within, length⟩ := exists_trail walked
  by_contra free
  have led : (start :: trail).Pairwise (TransGen (GoesOn intermediates anchor)) :=
    List.isChain_iff_pairwise.mp (chained.imp fun _ _ => TransGen.single)
  obtain ⟨reached, led⟩ := List.pairwise_cons.mp led
  have distinct : trail.Nodup := by
    refine led.imp_of_mem fun {first later} member _ leads => ?_
    rintro rfl
    exact free ⟨first, (reached first member).to_reflTransGen, leads⟩
  have short : trail.length ≤ intermediates.length := (distinct.subperm within).length_le
  omega

/-! ### The limit -/

/-- Beyond the number of certificates the limit does not matter. -/
theorem verifyPathWithin_eq_ok_iff_of_lt {steps : Nat} (many : intermediates.length < steps) :
    verifyPathWithin steps start intermediates anchor time = .ok () ↔
      start.certificate.IsUsableAt time ∧
        ∃ visited, Walk intermediates anchor time start 0 visited := by
  rw [verifyPathWithin_eq_ok_iff]
  refine and_congr_right fun _ => exists_congr fun visited => ?_
  exact and_iff_left_of_imp fun walked => walked.length_le.trans_lt many

/-- **The limit on steps refuses no path.** A walk that arrives, with any limit or with none, comes to no
certificate twice, and arrives with one step for each intermediate certificate and one for the anchor.
So with fewer intermediate certificates than the limit has steps, it may as well be larger or not be
there. What it does refuse is a walk that comes back to where it was, and that would never arrive. -/
theorem limit_immaterial (start anchor : Presented) (intermediates : List Presented)
    (time : CertificateTime) :
    (∀ visited, Walk intermediates anchor time start 0 visited →
      (start :: visited).Nodup ∧ visited ⊆ intermediates ∧
        visited.length ≤ intermediates.length) ∧
    (∀ steps, verifyPathWithin steps start intermediates anchor time = .ok () ↔
      start.certificate.IsUsableAt time ∧
        ∃ visited, Walk intermediates anchor time start 0 visited ∧ visited.length < steps) ∧
    (verifyPathWithin (intermediates.length + 1) start intermediates anchor time = .ok () ↔
      start.certificate.IsUsableAt time ∧
        ∃ visited, Walk intermediates anchor time start 0 visited) ∧
    (intermediates.length < greatestSteps → ∀ steps, greatestSteps ≤ steps →
      (verifyPathWithin steps start intermediates anchor time = .ok () ↔
        verifyPath start intermediates anchor time = .ok ())) ∧
    (∀ steps, intermediates.length < steps →
      verifyPathWithin steps start intermediates anchor time = .error (.tooLong steps) →
        EntersCycle intermediates anchor start) ∧
    (EntersCycle intermediates anchor start →
      (∀ steps, verifyPathWithin steps start intermediates anchor time ≠ .ok ()) ∧
        ∀ visited, ¬ Walk intermediates anchor time start 0 visited) := by
  refine ⟨?_, fun _ => verifyPathWithin_eq_ok_iff,
    verifyPathWithin_eq_ok_iff_of_lt (Nat.lt_succ_self _), ?_, fun _ => entersCycle_of_tooLong, ?_⟩
  · intro visited walked
    exact ⟨List.nodup_cons.mpr ⟨walked.not_mem_start, walked.nodup⟩, walked.subset,
      walked.length_le⟩
  · intro few steps more
    rw [verifyPath, verifyPathWithin_eq_ok_iff_of_lt (few.trans_le more),
      verifyPathWithin_eq_ok_iff_of_lt few]
  · intro round
    have never : ∀ visited, ¬ Walk intermediates anchor time start 0 visited := fun _ walked =>
      walked.not_entersCycle round
    refine ⟨fun steps accepted => ?_, never⟩
    obtain ⟨_, visited, walked, _⟩ := verifyPathWithin_eq_ok_iff.mp accepted
    exact never visited walked

namespace Lettered

/-- A certificate that issued itself leads back to itself, as long as the anchor bears another name. -/
theorem other_entersCycle : EntersCycle [other] ruling.root other := by
  have on : GoesOn [other] ruling.root other other := by
    have named : other.bytes ≠ ruling.root.bytes ∧
        other.certificate.namesIssuer ruling.root.certificate = false ∧
        other.certificate.namesIssuer other.certificate = true := by
      decide +kernel
    exact ⟨named.1, named.2.1, List.find?_cons_of_pos named.2.2⟩
  exact ⟨other, .refl, .single on⟩

/-- A leaf comes to the anchor over an authority, with any larger limit too, and in two steps; the
certificate that issued itself does with none. -/
theorem short_and_round :
    verifyPath ruledLeaf [ruled] ruling.root Lettered.time = .ok () ∧
      (∀ steps, 4 ≤ steps → verifyPathWithin steps ruledLeaf [ruled] ruling.root Lettered.time = .ok ()) ∧
      verifyPathWithin 2 ruledLeaf [ruled] ruling.root Lettered.time = .ok () ∧
      EntersCycle [other] ruling.root other ∧
      ∀ steps, verifyPathWithin steps other [other] ruling.root Lettered.time ≠ .ok () := by
  obtain ⟨_, any, short, few, _⟩ := limit_immaterial ruledLeaf ruling.root [ruled] Lettered.time
  obtain ⟨_, _, _, _, _, round⟩ := limit_immaterial other ruling.root [other] Lettered.time
  refine ⟨ruledLeaf_verified, fun steps more => ?_, ?_, other_entersCycle,
    (round other_entersCycle).1⟩
  · exact (few (by decide) steps more).mpr ruledLeaf_verified
  · obtain ⟨usable, visited, walked, _⟩ := (any greatestSteps).mp ruledLeaf_verified
    exact short.mpr ⟨usable, visited, walked⟩

end Lettered

end SignedPurchase
