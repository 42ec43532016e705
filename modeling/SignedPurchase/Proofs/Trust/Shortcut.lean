import SignedPurchase.Proofs.Der.Element
import SignedPurchase.Proofs.Trust.Rollover

/-
**A certificate that is the anchor.**

The walk ends at once at a certificate that has the bytes of the anchor, and asks nothing more of it. An
anchor that issued itself passes all that could be asked there, so for such an anchor the walk gives what
it would give if it never compared any bytes. Bytes after a certificate, which are passed over when it is
read, then change nothing.

* `longWalk` is the walk on certificates without their bytes, `verifyLongPath` the check of a path by it;
* `walk_eq_longWalk`: the two differ at most where they start, since an issuer that is found beside the
  anchor is not the anchor;
* `verifyPathWithin_eq_long`: for an anchor that issued itself they do not differ there either;
* `isSelfMade_of_agree`: for every other anchor that can ever be used, they do;
* `bytes_immaterial` puts this together, and carries it to headers.
-/

namespace SignedPurchase

/-! ### Walking without bytes -/

/-- An anchor that issued itself: it names itself as its issuer, its signature verifies under its own
key, and it is an authority. -/
structure Certificate.IsSelfMade (anchor : Certificate) : Prop where
  selfIssued : anchor.isSelfIssued = true
  signed : anchor.isSignedBy anchor = true
  authority : anchor.isAuthority = true

/-- Goes on from a certificate like `walk`, but does not ask whether it is the anchor. -/
def longWalk (intermediates : List Certificate) (anchor : Certificate) (time : CertificateTime)
    (limit : Nat) : (steps : Nat) → Certificate → (below : Nat) → Except PathFault Unit
  | 0, _, _ => .error (.tooLong limit)
  | steps + 1, current, below =>
    if current.namesIssuer anchor then checkStep current anchor time below
    else
      match intermediates.find? fun other => current.namesIssuer other with
      | none => .error (.noIssuer current)
      | some issuer =>
        match checkStep current issuer time below with
        | .ok () => longWalk intermediates anchor time limit steps issuer (belowNext issuer below)
        | .error fault => .error fault

/-- A path with at most so many steps leads from a certificate to the anchor, as `verifyPathWithin`
finds it but without a look at bytes. -/
def verifyLongPathWithin (steps : Nat) (start : Certificate) (intermediates : List Certificate)
    (anchor : Certificate) (time : CertificateTime) : Except PathFault Unit :=
  match checkUsable start time with
  | .ok () => longWalk intermediates anchor time steps steps start 0
  | .error fault => .error fault

/-- A path leads from a certificate to the anchor, as `verifyPath` finds it but without a look at
bytes. -/
def verifyLongPath (start : Certificate) (intermediates : List Certificate) (anchor : Certificate)
    (time : CertificateTime) : Except PathFault Unit :=
  verifyLongPathWithin greatestSteps start intermediates anchor time

/-! ### Both walks -/

section Paths

variable {intermediates : List Presented} {anchor current start : Presented} {time : CertificateTime}

/-- **From any certificate but the anchor** both walks are the same. The next certificate is not the
anchor either, or the one before would have named the anchor as its issuer. -/
theorem walk_eq_longWalk (other : current.bytes ≠ anchor.bytes) (limit steps below : Nat) :
    walk intermediates anchor time limit steps current below =
      longWalk (intermediates.map (·.certificate)) anchor.certificate time limit steps
        current.certificate below := by
  induction steps generalizing current below with
  | zero => rfl
  | succ steps ih =>
    rw [walk, longWalk, if_neg other]
    cases named : current.certificate.namesIssuer anchor.certificate with
    | true => rfl
    | false =>
      simp only [Bool.false_eq_true, if_false]
      have lookup : ((intermediates.map (·.certificate)).find? fun candidate =>
          current.certificate.namesIssuer candidate) =
          (intermediates.find? fun candidate =>
            current.certificate.namesIssuer candidate.certificate).map (·.certificate) :=
        List.find?_map
      rw [lookup]
      cases found : intermediates.find? fun candidate =>
          current.certificate.namesIssuer candidate.certificate with
      | none => rfl
      | some issuer =>
        dsimp only [Option.map_some]
        cases checkStep current.certificate issuer.certificate time below with
        | error fault => rfl
        | ok done => exact ih (Walk.bytes_ne_of_found named found) _

/-- At an anchor that issued itself, the long walk takes one step and goes well. -/
theorem longWalk_of_isSelfMade {anchor : Certificate} (selfMade : anchor.IsSelfMade)
    (usable : anchor.IsUsableAt time) (intermediates : List Certificate) (limit steps : Nat) :
    longWalk intermediates anchor time limit (steps + 1) anchor 0 = .ok () := by
  have named : anchor.namesIssuer anchor = true := selfMade.selfIssued
  rw [longWalk, if_pos named]
  exact checkStep_eq_ok_iff.mpr
    ⟨selfMade.signed, usable, selfMade.authority, fun allowed _ => Nat.zero_le allowed⟩

/-- **For an anchor that issued itself bytes do not matter**, whatever the limit on steps: the same
paths are found good, and the others are refused for the same reason. -/
theorem verifyPathWithin_eq_long (selfMade : anchor.certificate.IsSelfMade) (steps : Nat)
    (start : Presented) (intermediates : List Presented) (time : CertificateTime) :
    verifyPathWithin steps start intermediates anchor time =
      verifyLongPathWithin steps start.certificate (intermediates.map (·.certificate))
        anchor.certificate time := by
  rw [verifyPathWithin, verifyLongPathWithin]
  cases usable : checkUsable start.certificate time with
  | error fault => rfl
  | ok done =>
    dsimp only
    by_cases same : start.bytes = anchor.bytes
    · obtain rfl : start = anchor := Presented.eq_of_bytes same
      cases steps with
      | zero => rfl
      | succ steps =>
        rw [walk, if_pos rfl, longWalk_of_isSelfMade selfMade (checkUsable_eq_ok_iff.mp usable)]
    · exact walk_eq_longWalk same steps steps 0

/-- **For no other anchor** is that so, unless it can never be used. Where it can be, it is accepted on
its own, and the long walk finds nothing that speaks for it. -/
theorem isSelfMade_of_agree (usable : anchor.certificate.IsUsableAt time)
    (agree : verifyPath anchor [] anchor time = .ok () →
      verifyLongPath anchor.certificate [] anchor.certificate time = .ok ()) :
    anchor.certificate.IsSelfMade := by
  have short : verifyPath anchor [] anchor time = .ok () :=
    verifyPath_eq_ok_iff.mpr ⟨usable, [], .arrived rfl, by decide⟩
  have long := agree short
  rw [verifyLongPath, verifyLongPathWithin, checkUsable_eq_ok_iff.mpr usable] at long
  change longWalk [] anchor.certificate time greatestSteps (3 + 1) anchor.certificate 0 = _ at long
  rw [longWalk] at long
  split at long
  · next named =>
    obtain ⟨signed, _, admits⟩ := checkStep_eq_ok_iff.mp long
    exact ⟨named, signed, admits.authority⟩
  · cases long

end Paths

/-! ### Headers -/

/-- Two entries of a header carry the same certificate, with any bytes after it or none. -/
def CarrySame (entry other : String) : Prop :=
  ∃ first second : Presented, Spells entry first ∧ Spells other second ∧
    first.certificate = second.certificate

/-- Bytes after a certificate are passed over. -/
theorem carrySame_of_append {entry other : String} {certificate : Presented} {extra : Bytes}
    (spelled : Spells entry certificate)
    (longer : Base64.decode? .standard .required other.toList = some (certificate.bytes ++ extra)) :
    CarrySame entry other :=
  ⟨certificate, ⟨_, certificate.certificate, Certificate.ofBytes?_append certificate.read extra⟩,
    spelled, longer, rfl⟩

section Headers

variable {anchor : TrustAnchor} {header other : Header} {instant : Instant}

/-- Entries that are the same, or carry the same certificates, are read to the same certificates or
refused together. -/
theorem readCertificates_eq_of_carrySame {entries others : List String}
    (alike : List.Forall₂ (fun entry other => entry = other ∨ CarrySame entry other) entries others)
    (index : Nat) :
    (readCertificates index entries).map (List.map (·.certificate)) =
      (readCertificates index others).map (List.map (·.certificate)) := by
  have pushed : ∀ (certificate : Presented) (read : Outcome (List Presented)),
      (read.map (certificate :: ·)).map (List.map (·.certificate)) =
        (read.map (List.map (·.certificate))).map (certificate.certificate :: ·) := by
    intro certificate read
    cases read <;> rfl
  induction alike generalizing index with
  | nil => rfl
  | cons here _ ih =>
    rw [readCertificates_cons, readCertificates_cons]
    rcases here with rfl | ⟨certificate, second, spelled, spelled', same⟩
    · cases readCertificate index _ with
      | error failure => rfl
      | ok certificate =>
        show Except.map _ (Except.map _ _) = Except.map _ (Except.map _ _)
        rw [pushed, pushed, ih]
    · rw [readCertificate_eq_ok_iff.mpr spelled, readCertificate_eq_ok_iff.mpr spelled']
      show Except.map _ (Except.map _ _) = Except.map _ (Except.map _ _)
      rw [pushed, pushed, ih, same]

/-- The check of certificates does not look at their bytes, for an anchor that issued itself. -/
theorem verifyCertificates_eq_of_certificates (selfMade : anchor.root.certificate.IsSelfMade)
    {leaf leaf' intermediate intermediate' : Presented} {root root' : Option Presented}
    (leaves : leaf.certificate = leaf'.certificate)
    (between : intermediate.certificate = intermediate'.certificate)
    (roots : root.map (·.certificate) = root'.map (·.certificate)) :
    verifyCertificates anchor leaf intermediate root instant =
      verifyCertificates anchor leaf' intermediate' root' instant := by
  have path : ∀ part (start start' : Presented) (intermediates intermediates' : List Presented) time,
      start.certificate = start'.certificate →
      intermediates.map (·.certificate) = intermediates'.map (·.certificate) →
      requirePath part start intermediates anchor time =
        requirePath part start' intermediates' anchor time := by
    intro part start start' intermediates intermediates' time starts lists
    rw [requirePath, requirePath, verifyPath, verifyPath, verifyPathWithin_eq_long selfMade,
      verifyPathWithin_eq_long selfMade, starts, lists]
  have rootPath : ∀ time, requireRoot root anchor time = requireRoot root' anchor time := by
    intro time
    cases root <;> cases root' <;> simp only [Option.map_some, Option.map_none, reduceCtorEq,
      Option.some.injEq] at roots
    · rfl
    · exact path _ _ _ [] [] time roots rfl
  have leafPath := fun time => path "leaf" leaf leaf' [intermediate] [intermediate'] time leaves
    (congrArg ([·]) between)
  simp only [verifyCertificates, rootPath, leafPath, leaves]

/-- **Headers with the same certificates** have the same key or the same failure, for an anchor that
issued itself. -/
theorem verifyHeader_eq_of_carrySame (selfMade : anchor.root.certificate.IsSelfMade)
    (alike : List.Forall₂ (fun entry other => entry = other ∨ CarrySame entry other)
      header.certificates other.certificates) (instant : Instant) :
    verifyHeader anchor header instant = verifyHeader anchor other instant := by
  have read := readCertificates_eq_of_carrySame (List.forall₂_take countedCertificates alike) 0
  unfold verifyHeader
  rw [alike.length_eq]
  split
  · rfl
  · generalize readCertificates 0 (header.certificates.take countedCertificates) = first at read ⊢
    generalize readCertificates 0 (other.certificates.take countedCertificates) = second at read ⊢
    cases first with
    | error failure =>
      cases second with
      | error failure' =>
        cases read
        rfl
      | ok certificates => cases read
    | ok certificates =>
      cases second with
      | error failure => cases read
      | ok certificates' =>
        have same : certificates.map (·.certificate) = certificates'.map (·.certificate) :=
          Except.ok.inj read
        rw [← List.forall₂_eq_eq_eq, List.forall₂_map_left_iff, List.forall₂_map_right_iff] at same
        cases same with
        | nil => rfl
        | cons leaves later =>
          cases later with
          | nil => rfl
          | cons between rests =>
            refine verifyCertificates_eq_of_certificates selfMade leaves between ?_
            cases rests with
            | nil => rfl
            | cons roots _ => exact congrArg some roots

end Headers

/-- **For an anchor that issued itself it does not matter that bytes are compared.** Every path that is
found good is found good without that, and the other way round; with any limit on steps, the others
are refused for the same reason. So it makes no difference to any header whether an entry is the anchor
byte for byte, or the anchor with more bytes after it, nor does it for any other certificate. -/
theorem bytes_immaterial (anchor : TrustAnchor) (selfMade : anchor.root.certificate.IsSelfMade) :
    (∀ start intermediates time,
      verifyPath start intermediates anchor.root time = .ok () ↔
        verifyLongPath start.certificate (intermediates.map (·.certificate)) anchor.root.certificate
          time = .ok ()) ∧
    (∀ steps start intermediates time,
      verifyPathWithin steps start intermediates anchor.root time =
        verifyLongPathWithin steps start.certificate (intermediates.map (·.certificate))
          anchor.root.certificate time) ∧
    (∀ entry other certificate extra, Spells entry certificate →
      Base64.decode? .standard .required other.toList = some (certificate.bytes ++ extra) →
      CarrySame entry other) ∧
    ∀ (header other : Header) (instant : Instant),
      List.Forall₂ (fun entry other => entry = other ∨ CarrySame entry other)
        header.certificates other.certificates →
      verifyHeader anchor header instant = verifyHeader anchor other instant := by
  refine ⟨?_, verifyPathWithin_eq_long selfMade, fun _ _ _ _ => carrySame_of_append,
    fun _ _ instant alike => verifyHeader_eq_of_carrySame selfMade alike instant⟩
  intro start intermediates time
  rw [verifyPath, verifyPathWithin_eq_long selfMade, verifyLongPath]

/-! ### An anchor with a byte after it -/

namespace Lettered

/-- An anchor that issued itself, and allows no authority below it. -/
def sovereign : TrustAnchor :=
  ⟨presented (sealed (statement 0x41 0x41 Curve.p256.base lowestAuthority)
    0x0803cbf0bb6d49d9eeb3f066e40b18f960d24d5b00e4ee693e0145e521645f38) (by decide +kernel)⟩

theorem sovereign_held : sovereign.root.certificate.isSelfIssued = true ∧
    sovereign.root.certificate.isAuthority = true ∧
    checkUsable sovereign.root.certificate time = .ok () ∧
    sovereign.root.certificate.publicKey.algorithm.kind = Oid.ellipticKey ∧
    pointOfInfo? sovereign.root.certificate.publicKey.raw = some Curve.p256.base := by
  decide +kernel

theorem sovereign_selfMade : sovereign.root.certificate.IsSelfMade := by
  obtain ⟨selfIssued, authority, _⟩ := sovereign_held
  refine ⟨selfIssued, ?_, authority⟩
  rw [Certificate.isSignedBy_eq_verifies (by decide +kernel)]
  decide +kernel

/-- A header with the anchor as leaf and as root, and with bytes after the leaf. -/
def sovereignHeader (extra : Bytes) : Header :=
  ⟨"ES256", none, [sovereign.root.bytes ++ extra, ruled.bytes, sovereign.root.bytes].map
    (Base64.encode .standard .required)⟩

/-- Without bytes after it, the leaf is the anchor. -/
theorem sovereign_verified : verifyHeader sovereign (sovereignHeader []) ⟨0⟩ = .ok Curve.p256.base := by
  obtain ⟨_, _, usable, elliptic, keyed⟩ := sovereign_held
  have path : ∀ intermediates,
      verifyPath sovereign.root intermediates sovereign.root time = .ok () := fun intermediates =>
    verifyPath_eq_ok_iff.mpr ⟨checkUsable_eq_ok_iff.mp usable, [], .arrived rfl, by decide⟩
  refine verifyHeader_eq_ok_iff.mpr ⟨sovereign.root, ruled, some sovereign.root, ?_,
    verifyCertificates_eq_ok_iff.mpr ⟨time, timed, ?_, path _,
      PublicKeyInfo.signingKey_eq_ok_iff.mpr ⟨elliptic, keyed⟩⟩⟩
  · refine .cons ?_ (.cons (spells_encode ruled) (.cons (spells_encode sovereign.root) .nil))
    rw [List.append_nil]
    exact spells_encode sovereign.root
  · intro carried member
    rw [← Option.some.inj member]
    exact path []

/-- With a byte after it the leaf is no longer the anchor, but one that the anchor issued. -/
theorem sovereign_followed : sovereign.root.certificate.IsSelfMade ∧
    verifyLongPath sovereign.root.certificate [] sovereign.root.certificate time = .ok () ∧
    verifyHeader sovereign (sovereignHeader [0x00]) ⟨0⟩ = .ok Curve.p256.base := by
  obtain ⟨_, _, usable, _⟩ := sovereign_held
  obtain ⟨agree, _, carry, headers⟩ := bytes_immaterial sovereign sovereign_selfMade
  refine ⟨sovereign_selfMade, (agree sovereign.root [] time).mp ?_, ?_⟩
  · exact verifyPath_eq_ok_iff.mpr ⟨checkUsable_eq_ok_iff.mp usable, [], .arrived rfl, by decide⟩
  · rw [← headers (sovereignHeader []) (sovereignHeader [0x00]) ⟨0⟩, sovereign_verified]
    refine .cons (.inr (carry _ _ sovereign.root [0x00] ?_ (Base64.decode?_encode _ _)))
      (.cons (.inl rfl) (.cons (.inl rfl) .nil))
    rw [List.append_nil]
    exact spells_encode sovereign.root

end Lettered

end SignedPurchase
