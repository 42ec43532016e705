import Mathlib.Data.List.Perm.Subperm
import SignedPurchase.Proofs.Trust.Certification

/-
**The walk to the anchor.**

The walk is greedy and never goes back. What it visits is therefore settled by where it starts: it
cannot visit an issuer twice, and it cannot pass by the anchor.

* `Walk` is the walk without its limit on steps, with the issuers that it visits;
* `verifyPathWithin_eq_ok_iff`: the check of a path is a walk that visits fewer issuers than there are
  steps;
* `leadsTo_of_verifyPath`: what the walk finds is a certification path;
* `verifyPath_of_leadsTo`: the walk finds every certification path, when no intermediate certificate
  shares its name with another one or with the anchor.
-/

namespace SignedPurchase

/-! ### Walks -/

/-- A walk from a certificate with so many authorities below it, and the issuers that it visits before
the anchor. -/
inductive Walk (intermediates : List Presented) (anchor : Presented) (time : CertificateTime) :
    (current : Presented) → (below : Nat) → (visited : List Presented) → Prop where
  /-- The certificate is the anchor itself. -/
  | arrived {current : Presented} {below : Nat} (same : current.bytes = anchor.bytes) :
    Walk intermediates anchor time current below []
  /-- The anchor is the issuer. -/
  | anchored {current : Presented} {below : Nat} (other : current.bytes ≠ anchor.bytes)
    (named : current.certificate.namesIssuer anchor.certificate = true)
    (step : checkStep current.certificate anchor.certificate time below = .ok ()) :
    Walk intermediates anchor time current below []
  /-- The first intermediate certificate that bears the issuer's name is the issuer. -/
  | onward {current issuer : Presented} {below : Nat} {visited : List Presented}
    (other : current.bytes ≠ anchor.bytes)
    (unnamed : current.certificate.namesIssuer anchor.certificate = false)
    (found : intermediates.find? (fun candidate =>
      current.certificate.namesIssuer candidate.certificate) = some issuer)
    (step : checkStep current.certificate issuer.certificate time below = .ok ())
    (rest : Walk intermediates anchor time issuer (belowNext issuer.certificate below) visited) :
    Walk intermediates anchor time current below (issuer :: visited)

variable {intermediates visited : List Presented} {anchor current start : Presented}
  {time : CertificateTime} {below : Nat}

/-- **The walk that is limited in its steps** goes well when it visits fewer issuers than it has
steps. -/
theorem walk_eq_ok_iff {limit steps : Nat} :
    walk intermediates anchor time limit steps current below = .ok () ↔
      ∃ visited, Walk intermediates anchor time current below visited ∧ visited.length < steps := by
  induction steps generalizing current below with
  | zero =>
    refine ⟨?_, ?_⟩
    · intro arrived
      cases arrived
    · rintro ⟨visited, _, short⟩
      exact absurd short (Nat.not_lt_zero _)
  | succ steps ih =>
    rw [walk]
    refine ⟨?_, ?_⟩
    · intro arrived
      split at arrived
      · rename_i same
        exact ⟨[], .arrived same, Nat.succ_pos steps⟩
      · rename_i other
        split at arrived
        · rename_i named
          exact ⟨[], .anchored other named arrived, Nat.succ_pos steps⟩
        · rename_i unnamed
          rw [Bool.not_eq_true] at unnamed
          split at arrived
          · cases arrived
          · rename_i issuer found
            split at arrived
            · rename_i step
              obtain ⟨visited, rest, short⟩ := ih.mp arrived
              exact ⟨issuer :: visited, .onward other unnamed found step rest,
                Nat.succ_lt_succ short⟩
            · cases arrived
    · rintro ⟨visited, walked, short⟩
      cases walked with
      | arrived same => rw [if_pos same]
      | anchored other named step => rw [if_neg other, if_pos named, step]
      | onward other unnamed found step rest =>
        rw [if_neg other, unnamed, found]
        simp only [Bool.false_eq_true, if_false, step]
        exact ih.mpr ⟨_, rest, Nat.lt_of_succ_lt_succ short⟩

/-- The check of a path with any limit is the check of its start and a walk with fewer steps. -/
theorem verifyPathWithin_eq_ok_iff {steps : Nat} :
    verifyPathWithin steps start intermediates anchor time = .ok () ↔
      start.certificate.IsUsableAt time ∧
        ∃ visited, Walk intermediates anchor time start 0 visited ∧ visited.length < steps := by
  rw [verifyPathWithin, ← checkUsable_eq_ok_iff]
  cases checkUsable start.certificate time with
  | error fault => simp only [reduceCtorEq, false_and]
  | ok done => simp only [true_and, walk_eq_ok_iff]

/-- The check of a path is the check of its start and a walk. -/
theorem verifyPath_eq_ok_iff :
    verifyPath start intermediates anchor time = .ok () ↔
      start.certificate.IsUsableAt time ∧
        ∃ visited, Walk intermediates anchor time start 0 visited ∧
          visited.length < greatestSteps :=
  verifyPathWithin_eq_ok_iff

namespace Walk

/-! ### Walks are settled by their start -/

/-- Where a walk starts decides what it visits. How many authorities are below does not matter. -/
theorem unique {otherBelow : Nat} {others : List Presented}
    (first : Walk intermediates anchor time current below visited)
    (second : Walk intermediates anchor time current otherBelow others) : visited = others := by
  induction first generalizing otherBelow others with
  | arrived same =>
    cases second with
    | arrived _ => rfl
    | anchored _ _ _ => rfl
    | onward other _ _ _ _ => exact absurd same other
  | anchored _ named _ =>
    cases second with
    | arrived _ => rfl
    | anchored _ _ _ => rfl
    | onward _ unnamed _ _ _ =>
      rw [named] at unnamed
      cases unnamed
  | onward other unnamed found _ _ ih =>
    cases second with
    | arrived same => exact absurd same other
    | anchored _ named _ =>
      rw [unnamed] at named
      cases named
    | onward _ _ again _ rest =>
      rw [found] at again
      cases again
      rw [ih rest]

/-- From each issuer that is visited, the rest of the walk is a walk. -/
theorem suffix {first later : List Presented} {issuer : Presented}
    (walked : Walk intermediates anchor time current below (first ++ issuer :: later)) :
    ∃ below, Walk intermediates anchor time issuer below later := by
  induction first generalizing current below with
  | nil =>
    cases walked with
    | onward _ _ _ _ rest => exact ⟨_, rest⟩
  | cons visited first ih =>
    cases walked with
    | onward _ _ _ _ rest => exact ih rest

/-- A walk does not come back to where it starts: from there on it would be the same, hence endless. -/
theorem not_mem_start (walked : Walk intermediates anchor time current below visited) :
    current ∉ visited := by
  intro again
  obtain ⟨first, later, split⟩ := List.append_of_mem again
  obtain ⟨_, shorter⟩ := (split ▸ walked).suffix
  have lengths := congrArg List.length ((split ▸ walked).unique shorter)
  rw [List.length_append, List.length_cons] at lengths
  omega

/-- **No issuer is visited twice.** -/
theorem nodup (walked : Walk intermediates anchor time current below visited) :
    visited.Nodup := by
  induction walked with
  | arrived _ => exact List.nodup_nil
  | anchored _ _ _ => exact List.nodup_nil
  | onward _ _ _ _ rest ih => exact List.nodup_cons.mpr ⟨rest.not_mem_start, ih⟩

theorem subset (walked : Walk intermediates anchor time current below visited) :
    visited ⊆ intermediates := by
  induction walked with
  | arrived _ => exact List.nil_subset _
  | anchored _ _ _ => exact List.nil_subset _
  | onward _ _ found _ _ ih =>
    exact List.cons_subset.mpr ⟨List.mem_of_find?_eq_some found, ih⟩

/-- There are never more issuers visited than there are intermediate certificates. -/
theorem length_le (walked : Walk intermediates anchor time current below visited) :
    visited.length ≤ intermediates.length :=
  (walked.nodup.subperm walked.subset).length_le

/-! ### What a walk finds is a path -/

theorem named_of_found {issuer : Presented}
    (found : intermediates.find? (fun candidate =>
      current.certificate.namesIssuer candidate.certificate) = some issuer) :
    current.certificate.namesIssuer issuer.certificate = true :=
  List.find?_some (p := fun candidate : Presented =>
    current.certificate.namesIssuer candidate.certificate) found

/-- An issuer that is found beside the anchor is not the anchor. -/
theorem bytes_ne_of_found {issuer : Presented}
    (unnamed : current.certificate.namesIssuer anchor.certificate = false)
    (found : intermediates.find? (fun candidate =>
      current.certificate.namesIssuer candidate.certificate) = some issuer) :
    issuer.bytes ≠ anchor.bytes := by
  intro same
  have named := named_of_found found
  rw [Presented.eq_of_bytes same, unnamed] at named
  cases named

theorem isIssuedBy_of_step {certificate issuer : Certificate}
    (named : certificate.namesIssuer issuer = true)
    (step : checkStep certificate issuer time below = .ok ()) : certificate.IsIssuedBy issuer := by
  obtain ⟨signed, _, _⟩ := checkStep_eq_ok_iff.mp step
  exact ⟨Certificate.namesIssuer_iff.mp named, signed⟩

/-- Each certificate of a walk is issued by the next, and the last by the anchor. -/
theorem linked (walked : Walk intermediates anchor time current below visited)
    (other : current.bytes ≠ anchor.bytes) :
    (current.certificate ::
      (visited.map (·.certificate) ++ [anchor.certificate])).IsChain Certificate.IsIssuedBy := by
  induction walked with
  | arrived same => exact absurd same other
  | anchored _ named step => exact .cons_cons (isIssuedBy_of_step named step) (.singleton _)
  | onward _ unnamed found step _ ih =>
    exact .cons_cons (isIssuedBy_of_step (named_of_found found) step)
      (ih (bytes_ne_of_found unnamed found))

/-- Every issuer of a walk can be used, the anchor included. -/
theorem usable (walked : Walk intermediates anchor time current below visited)
    (other : current.bytes ≠ anchor.bytes) :
    ∀ certificate ∈ visited.map (·.certificate) ++ [anchor.certificate],
      certificate.IsUsableAt time := by
  induction walked with
  | arrived same => exact absurd same other
  | anchored _ _ step =>
    obtain ⟨_, usable, _⟩ := checkStep_eq_ok_iff.mp step
    intro certificate member
    rw [List.map_nil, List.nil_append, List.mem_singleton] at member
    rw [member]
    exact usable
  | onward _ unnamed found step _ ih =>
    obtain ⟨_, usable, _⟩ := checkStep_eq_ok_iff.mp step
    have further := ih (bytes_ne_of_found unnamed found)
    intro certificate member
    rw [List.map_cons, List.cons_append, List.mem_cons] at member
    rcases member with rfl | later
    · exact usable
    · exact further certificate later

/-- The number of authorities below the next issuer, as certificates are counted. -/
theorem belowNext_eq {issuer : Certificate} (authority : issuer.isAuthority = true) :
    belowNext issuer below = below + [issuer].countP Certificate.isCounted := by
  rw [belowNext, List.countP_singleton, Certificate.isCounted, authority, Bool.true_and]
  cases issuer.isSelfIssued with
  | false => rfl
  | true => rfl

/-- **Every issuer of a walk admits the authorities below it**: those below the start, and those
counted since. -/
theorem admitted (walked : Walk intermediates anchor time current below visited)
    (other : current.bytes ≠ anchor.bytes) {between above : List Certificate}
    {issuer : Certificate}
    (split : visited.map (·.certificate) ++ [anchor.certificate] = between ++ issuer :: above) :
    issuer.Admits (below + between.countP Certificate.isCounted) := by
  induction walked generalizing between with
  | arrived same => exact absurd same other
  | anchored _ _ step =>
    obtain ⟨_, _, admits⟩ := checkStep_eq_ok_iff.mp step
    cases between with
    | nil =>
      cases split
      exact admits
    | cons certificate between => simp at split
  | onward _ unnamed found step _ ih =>
    obtain ⟨_, _, admits⟩ := checkStep_eq_ok_iff.mp step
    cases between with
    | nil =>
      cases split
      exact admits
    | cons certificate between =>
      rw [List.map_cons, List.cons_append, List.cons_append, List.cons.injEq] at split
      obtain ⟨rfl, split⟩ := split
      have further := ih (bytes_ne_of_found unnamed found) split
      rw [belowNext_eq admits.authority, Nat.add_assoc, ← List.countP_append,
        List.singleton_append] at further
      exact further

/-- **What a walk finds is a certification path.** -/
theorem leadsTo (walked : Walk intermediates anchor time start 0 visited)
    (usable : start.certificate.IsUsableAt time) : LeadsTo anchor time start visited := by
  by_cases same : start.bytes = anchor.bytes
  · cases walked with
    | arrived _ => exact .itself same usable
    | anchored other _ _ => exact absurd same other
    | onward other _ _ _ _ => exact absurd same other
  · refine .issued ⟨walked.linked same, ?_, ?_⟩
    · intro certificate member
      rcases List.mem_cons.mp member with rfl | later
      · exact usable
      · exact walked.usable same certificate later
    · intro first between issuer above split
      obtain ⟨_, split⟩ := List.cons.inj split
      have admitted := walked.admitted same split
      rw [Nat.zero_add] at admitted
      exact admitted

/-! ### Every path is found -/

/-- A walk finds its way along a path, in no more steps. It can only be shorter, by arriving early.
No intermediate certificate may share its name with another one or with the anchor: the walk would
take the first, and would not come back for the second. -/
theorem of_path {between : List Presented}
    (distinct : ∀ first ∈ intermediates, ∀ second ∈ intermediates,
      first.certificate.subject.raw = second.certificate.subject.raw → first = second)
    (apart : ∀ other ∈ intermediates,
      other.certificate.subject.raw ≠ anchor.certificate.subject.raw)
    (within : between ⊆ intermediates)
    (linked : (current.certificate ::
      (between.map (·.certificate) ++ [anchor.certificate])).IsChain Certificate.IsIssuedBy)
    (usable : ∀ certificate ∈ between.map (·.certificate) ++ [anchor.certificate],
      certificate.IsUsableAt time)
    (admitted : ∀ lower issuer above,
      between.map (·.certificate) ++ [anchor.certificate] = lower ++ issuer :: above →
        issuer.Admits (below + lower.countP Certificate.isCounted)) :
    ∃ visited, Walk intermediates anchor time current below visited ∧
      visited.length ≤ between.length := by
  induction between generalizing current below with
  | nil =>
    by_cases same : current.bytes = anchor.bytes
    · exact ⟨[], .arrived same, Nat.le_refl _⟩
    · have issued : current.certificate.IsIssuedBy anchor.certificate := linked.rel
      refine ⟨[], .anchored same (Certificate.namesIssuer_iff.mpr issued.named) ?_, Nat.le_refl _⟩
      exact checkStep_eq_ok_iff.mpr
        ⟨issued.signed, usable _ List.mem_cons_self, admitted [] _ [] rfl⟩
  | cons issuer between ih =>
    by_cases same : current.bytes = anchor.bytes
    · exact ⟨[], .arrived same, Nat.zero_le _⟩
    · have issued : current.certificate.IsIssuedBy issuer.certificate := linked.rel
      obtain ⟨member, within⟩ := List.cons_subset.mp within
      have unnamed : current.certificate.namesIssuer anchor.certificate = false := by
        rw [Bool.eq_false_iff, Ne, Certificate.namesIssuer_iff, issued.named]
        exact apart issuer member
      have found : intermediates.find? (fun candidate =>
          current.certificate.namesIssuer candidate.certificate) = some issuer := by
        have exists_named : (intermediates.find? (fun candidate =>
            current.certificate.namesIssuer candidate.certificate)).isSome :=
          List.find?_isSome.mpr ⟨issuer, member, Certificate.namesIssuer_iff.mpr issued.named⟩
        obtain ⟨candidate, found⟩ := Option.isSome_iff_exists.mp exists_named
        have named := Certificate.namesIssuer_iff.mp (named_of_found found)
        rw [found, distinct candidate (List.mem_of_find?_eq_some found) issuer member
          (named.symm.trans issued.named)]
      have admits : issuer.certificate.Admits below := admitted [] _ _ rfl
      have step : checkStep current.certificate issuer.certificate time below = .ok () :=
        checkStep_eq_ok_iff.mpr ⟨issued.signed, usable _ List.mem_cons_self, admits⟩
      have onward : ∀ lower upper above,
          between.map (·.certificate) ++ [anchor.certificate] = lower ++ upper :: above →
            upper.Admits (belowNext issuer.certificate below +
              lower.countP Certificate.isCounted) := by
        intro lower upper above split
        rw [belowNext_eq admits.authority, Nat.add_assoc, ← List.countP_append,
          List.singleton_append]
        refine admitted (issuer.certificate :: lower) upper above ?_
        rw [List.map_cons, List.cons_append, List.cons_append, split]
      obtain ⟨visited, rest, short⟩ := ih within (List.isChain_of_isChain_cons linked)
        (fun certificate later => usable certificate (List.mem_cons_of_mem _ later)) onward
      exact ⟨issuer :: visited, .onward same unnamed found step rest, Nat.succ_le_succ short⟩

end Walk

/-! ### The check of a path -/

/-- **The check of a path is sound**: the certificate leads to the anchor over some of the intermediate
certificates, none of them twice. -/
theorem leadsTo_of_verifyPath (verified : verifyPath start intermediates anchor time = .ok ()) :
    ∃ between, between.Nodup ∧ between ⊆ intermediates ∧ LeadsTo anchor time start between := by
  obtain ⟨usable, visited, walked, _⟩ := verifyPath_eq_ok_iff.mp verified
  exact ⟨visited, walked.nodup, walked.subset, walked.leadsTo usable⟩

/-- **The check of a path is complete**, when every intermediate certificate has a name of its own. -/
theorem verifyPath_of_leadsTo {between : List Presented}
    (distinct : ∀ first ∈ intermediates, ∀ second ∈ intermediates,
      first.certificate.subject.raw = second.certificate.subject.raw → first = second)
    (apart : ∀ other ∈ intermediates,
      other.certificate.subject.raw ≠ anchor.certificate.subject.raw)
    (within : between ⊆ intermediates) (short : between.length < greatestSteps)
    (leads : LeadsTo anchor time start between) :
    verifyPath start intermediates anchor time = .ok () := by
  rw [verifyPath_eq_ok_iff]
  cases leads with
  | itself same usable => exact ⟨usable, [], .arrived same, short⟩
  | issued path =>
    refine ⟨path.usable _ List.mem_cons_self, ?_⟩
    have admitted : ∀ lower issuer above,
        between.map (·.certificate) ++ [anchor.certificate] = lower ++ issuer :: above →
          issuer.Admits (0 + lower.countP Certificate.isCounted) := by
      intro lower issuer above split
      rw [Nat.zero_add]
      exact path.admitted start.certificate lower issuer above (by rw [split])
    obtain ⟨visited, walked, shorter⟩ := Walk.of_path distinct apart within path.linked
      (fun certificate later => path.usable certificate (List.mem_cons_of_mem _ later)) admitted
    exact ⟨visited, walked, Nat.lt_of_le_of_lt shorter short⟩

end SignedPurchase
