import SignedPurchase.Proofs.Outcome
import SignedPurchase.Proofs.Text.Base64
import SignedPurchase.Proofs.Trust.Walk
import SignedPurchase.Trust.Chain

/-
**What the certificates of a header establish.**

The check of a header is measured against certification paths: it accepts nothing without a path from
the leaf to the anchor, and it accepts every header that has one, unless the intermediate certificate
passes itself off under the anchor's name.

* `TrustAnchor.Vouching` is what a header must come with for a key to be vouched for;
* `verifyHeader_eq_ok_iff` and `verifyToken_eq_ok_iff` take the check apart;
* `vouching_of_verifyHeader` and `vouching_of_accepted`: the check is sound, for headers and for whole
  tokens;
* `verifyHeader_of_vouching` and `accepted_of_paths`: the check is complete.
-/

namespace SignedPurchase

section Parts

variable {anchor : TrustAnchor} {header : Header} {instant : Instant} {key : Point}

/-! ### Reading certificates -/

/-- An entry of a header spells the bytes of a certificate. -/
def Spells (entry : String) (certificate : Presented) : Prop :=
  Base64.decode? .standard .required entry.toList = some certificate.bytes

/-- What is written of a certificate spells it. -/
theorem spells_encode (certificate : Presented) :
    Spells (Base64.encode .standard .required certificate.bytes) certificate :=
  Base64.decode?_encode .standard certificate.bytes

/-- The certificate of bytes is the one that has them. -/
theorem Presented.ofBytes?_eq_some_iff {bytes : Bytes} {certificate : Presented} :
    Presented.ofBytes? bytes = some certificate ↔ certificate.bytes = bytes := by
  unfold Presented.ofBytes?
  refine ⟨?_, ?_⟩
  · intro found
    split at found
    · cases found
      rfl
    · cases found
  · rintro rfl
    split
    · rename_i other read
      exact congrArg some (Presented.eq_of_bytes rfl)
    · rename_i unread
      rw [certificate.read] at unread
      cases unread

/-- The certificate at a place in a header is the one that the entry spells. -/
theorem readCertificate_eq_ok_iff {index : Nat} {entry : String} {certificate : Presented} :
    readCertificate index entry = .ok certificate ↔ Spells entry certificate := by
  unfold readCertificate Spells
  cases Base64.decode? .standard .required entry.toList with
  | none => simp only [reduceCtorEq]
  | some bytes =>
    simp only [Option.some.injEq]
    rw [eq_comm (a := bytes), ← Presented.ofBytes?_eq_some_iff]
    cases Presented.ofBytes? bytes with
    | none => simp only [reduceCtorEq]
    | some found => simp only [Except.ok.injEq, Option.some.injEq]

/-- The certificates of a header are read when each entry spells one. -/
theorem readCertificates_eq_ok_iff {index : Nat} {entries : List String}
    {certificates : List Presented} :
    readCertificates index entries = .ok certificates ↔
      List.Forall₂ Spells entries certificates := by
  induction entries generalizing index certificates with
  | nil =>
    rw [readCertificates]
    refine ⟨?_, ?_⟩
    · intro read
      cases read
      exact .nil
    · intro spelled
      cases spelled
      rfl
  | cons entry rest ih =>
    rw [readCertificates]
    refine ⟨?_, ?_⟩
    · intro read
      split at read
      · cases read
      · rename_i certificate first
        split at read
        · cases read
        · rename_i others later
          cases read
          exact .cons (readCertificate_eq_ok_iff.mp first) (ih.mp later)
    · intro spelled
      cases spelled with
      | cons first later =>
        rw [readCertificate_eq_ok_iff.mpr first, ih.mpr later]

/-- The certificate at the front is read before the others. -/
theorem readCertificates_cons {index : Nat} {entry : String} {rest : List String} :
    readCertificates index (entry :: rest) =
      readCertificate index entry >>= fun certificate =>
        (readCertificates (index + 1) rest).map (certificate :: ·) := by
  rw [readCertificates]
  cases readCertificate index entry with
  | error failure => rfl
  | ok certificate =>
    show _ = Except.map _ _
    cases readCertificates (index + 1) rest with
    | error failure => rfl
    | ok others => rfl

/-! ### The parts of the check -/

/-- The key of a certificate is one of the curve of 256 bits. -/
theorem PublicKeyInfo.signingKey_eq_ok_iff {info : PublicKeyInfo} :
    info.signingKey = .ok key ↔
      info.algorithm.kind = Oid.ellipticKey ∧ pointOfInfo? info.raw = some key := by
  rw [signingKey]
  by_cases elliptic : info.algorithm.kind = Oid.ellipticKey
  · rw [if_neg (not_not_intro elliptic)]
    cases pointOfInfo? info.raw with
    | none => simp only [reduceCtorEq, and_false]
    | some point => simp only [elliptic, Except.ok.injEq, Option.some.injEq, true_and]
  · rw [if_pos elliptic]
    simp only [elliptic, reduceCtorEq, false_and]

/-- A certificate that must lead to the anchor does so when its path is verified. -/
theorem requirePath_eq_ok_iff {part : String} {start : Presented} {intermediates : List Presented}
    {time : CertificateTime} :
    requirePath part start intermediates anchor time = .ok () ↔
      verifyPath start intermediates anchor.root time = .ok () := by
  rw [requirePath]
  cases verifyPath start intermediates anchor.root time with
  | error fault => simp only [reduceCtorEq]
  | ok done => simp only

/-- A root that is carried must lead to the anchor without help. -/
theorem requireRoot_eq_ok_iff {root : Option Presented} {time : CertificateTime} :
    requireRoot root anchor time = .ok () ↔
      ∀ carried ∈ root, verifyPath carried [] anchor.root time = .ok () := by
  cases root with
  | none => simp only [requireRoot, Option.not_mem_none, false_imp_iff, implies_true]
  | some root =>
    simp only [requireRoot, requirePath_eq_ok_iff, Option.mem_some_iff, forall_eq']

theorem checkTime_eq_ok_iff {time : CertificateTime} :
    checkTime instant = .ok time ↔ CertificateTime.ofSeconds? instant.seconds = some time := by
  unfold checkTime
  cases CertificateTime.ofSeconds? instant.seconds with
  | none => simp only [reduceCtorEq]
  | some found => simp only [Except.ok.injEq, Option.some.injEq]

/-- The checks of the certificates, in their order. -/
theorem verifyCertificates_eq_ok_iff {leaf intermediate : Presented} {root : Option Presented} :
    verifyCertificates anchor leaf intermediate root instant = .ok key ↔
      ∃ time, CertificateTime.ofSeconds? instant.seconds = some time ∧
        (∀ carried ∈ root, verifyPath carried [] anchor.root time = .ok ()) ∧
        verifyPath leaf [intermediate] anchor.root time = .ok () ∧
        leaf.certificate.publicKey.signingKey = .ok key := by
  simp only [verifyCertificates, Outcome.bind_eq_ok_iff, checkTime_eq_ok_iff]
  refine ⟨?_, ?_⟩
  · rintro ⟨time, timed, _, rootPath, _, leafPath, keyed⟩
    exact ⟨time, timed, requireRoot_eq_ok_iff.mp rootPath, requirePath_eq_ok_iff.mp leafPath,
      keyed⟩
  · rintro ⟨time, timed, rootPath, leafPath, keyed⟩
    exact ⟨time, timed, (), requireRoot_eq_ok_iff.mpr rootPath, (),
      requirePath_eq_ok_iff.mpr leafPath, keyed⟩

/-- When a root that is carried leads to the anchor, only the leaf is left to check. -/
theorem verifyCertificates_of_rootPath {leaf intermediate : Presented} {root : Option Presented}
    {time : CertificateTime} (timed : CertificateTime.ofSeconds? instant.seconds = some time)
    (rootPath : ∀ carried ∈ root, verifyPath carried [] anchor.root time = .ok ()) :
    verifyCertificates anchor leaf intermediate root instant =
      (requirePath "leaf" leaf [intermediate] anchor time >>= fun _ =>
        leaf.certificate.publicKey.signingKey) := by
  rw [verifyCertificates, checkTime_eq_ok_iff.mpr timed]
  show (requireRoot root anchor time >>= fun _ => _) = _
  rw [requireRoot_eq_ok_iff.mpr rootPath]
  rfl

/-- The check of a header is the check of the certificates that its first entries spell. -/
theorem verifyHeader_of_spelled {leaf intermediate : Presented} {root : Option Presented}
    (spelled : List.Forall₂ Spells (header.certificates.take 3)
      (leaf :: intermediate :: root.toList)) :
    verifyHeader anchor header instant =
      verifyCertificates anchor leaf intermediate root instant := by
  have enough : ¬ header.certificates.length < 2 := by
    have lengths := spelled.length_eq
    rw [List.length_cons, List.length_cons] at lengths
    have most := List.length_take_le' 3 header.certificates
    omega
  unfold verifyHeader leastCertificates countedCertificates
  rw [if_neg enough, readCertificates_eq_ok_iff.mpr spelled]
  dsimp only
  rw [Option.head?_toList]

/-- **The check of a header, taken apart.** -/
theorem verifyHeader_eq_ok_iff :
    verifyHeader anchor header instant = .ok key ↔
      ∃ (leaf intermediate : Presented) (root : Option Presented),
        List.Forall₂ Spells (header.certificates.take 3)
          (leaf :: intermediate :: root.toList) ∧
        verifyCertificates anchor leaf intermediate root instant = .ok key := by
  refine ⟨?_, ?_⟩
  · intro verified
    unfold verifyHeader leastCertificates countedCertificates at verified
    split at verified
    · cases verified
    · split at verified
      · cases verified
      · rename_i leaf intermediate rest read
        have spelled := readCertificates_eq_ok_iff.mp read
        -- Of at most three certificates there is at most one after the second.
        have few : rest.length ≤ 1 := by
          have lengths := spelled.length_eq
          rw [List.length_cons, List.length_cons] at lengths
          have most := List.length_take_le 3 header.certificates
          omega
        have single : rest = rest.head?.toList := by
          rw [← List.take_one, List.take_of_length_le few]
        rw [single] at spelled
        exact ⟨leaf, intermediate, rest.head?, spelled, verified⟩
      · cases verified
  · rintro ⟨leaf, intermediate, root, spelled, verified⟩
    rwa [verifyHeader_of_spelled spelled]

/-- **The check of a token** is that of its header. -/
theorem verifyToken_eq_ok_iff {text : String} :
    verifyToken anchor text instant = .ok key ↔ ∃ token header,
      CompactToken.parse text = .ok token ∧ token.readHeader = .ok header ∧
        verifyHeader anchor header instant = .ok key := by
  simp only [verifyToken, Outcome.bind_eq_ok_iff, exists_and_left]

/-! ### Soundness and completeness -/

/-- What speaks for a key at an instant: the certificates of a header, and the paths from them to the
anchor. -/
structure TrustAnchor.Vouching (anchor : TrustAnchor) (header : Header) (instant : Instant)
    (key : Point) where
  leaf : Presented
  intermediate : Presented
  root : Option Presented
  /-- At most three entries count, and each of them can be read. -/
  spelled : List.Forall₂ Spells (header.certificates.take 3)
    (leaf :: intermediate :: root.toList)
  time : CertificateTime
  /-- The time is that of the last whole second. -/
  timed : CertificateTime.ofSeconds? instant.seconds = some time
  between : List Presented
  /-- Nothing but the intermediate certificate can stand between leaf and anchor. -/
  only : between = [] ∨ between = [intermediate]
  leads : LeadsTo anchor.root time leaf between
  rootLeads : ∀ carried ∈ root, LeadsTo anchor.root time carried []
  elliptic : leaf.certificate.publicKey.algorithm.kind = Oid.ellipticKey
  keyed : pointOfInfo? leaf.certificate.publicKey.raw = some key

/-- The path from the leaf is the one that the walk finds. -/
def TrustAnchor.Vouching.IsWalked (vouching : anchor.Vouching header instant key) : Prop :=
  Walk [vouching.intermediate] anchor.root vouching.time vouching.leaf 0 vouching.between

/-- **A header that is accepted has all that must speak for its key**, along the path that the walk
finds. -/
theorem exists_isWalked_of_verifyHeader (verified : verifyHeader anchor header instant = .ok key) :
    ∃ vouching : anchor.Vouching header instant key, vouching.IsWalked := by
  obtain ⟨leaf, intermediate, root, spelled, verified⟩ := verifyHeader_eq_ok_iff.mp verified
  obtain ⟨time, timed, rootPath, leafPath, signing⟩ := verifyCertificates_eq_ok_iff.mp verified
  obtain ⟨usable, visited, walked, _⟩ := verifyPath_eq_ok_iff.mp leafPath
  obtain ⟨elliptic, keyed⟩ := PublicKeyInfo.signingKey_eq_ok_iff.mp signing
  have rootLeads : ∀ carried ∈ root, LeadsTo anchor.root time carried [] := by
    intro carried member
    obtain ⟨none, _, within, leads⟩ := leadsTo_of_verifyPath (rootPath carried member)
    rw [List.subset_nil.mp within] at leads
    exact leads
  exact
    ⟨{ leaf, intermediate, root, spelled, time, timed
       between := visited
       only := List.subperm_singleton_iff.mp (walked.nodup.subperm walked.subset)
       leads := walked.leadsTo usable
       rootLeads, elliptic, keyed }, walked⟩

theorem vouching_of_verifyHeader (verified : verifyHeader anchor header instant = .ok key) :
    Nonempty (anchor.Vouching header instant key) := by
  obtain ⟨vouching, _⟩ := exists_isWalked_of_verifyHeader verified
  exact ⟨vouching⟩

/-- **A header that has all that must speak for its key is accepted**, if its intermediate certificate
does not bear the name of the anchor. -/
theorem verifyHeader_of_vouching (vouching : anchor.Vouching header instant key)
    (apart : vouching.intermediate.certificate.subject.raw ≠ anchor.root.certificate.subject.raw) :
    verifyHeader anchor header instant = .ok key := by
  have rootPath : ∀ carried ∈ vouching.root,
      verifyPath carried [] anchor.root vouching.time = .ok () := by
    intro carried member
    refine verifyPath_of_leadsTo ?_ ?_ (List.nil_subset _) ?_ (vouching.rootLeads carried member)
    · exact fun first none => absurd none List.not_mem_nil
    · exact fun other none => absurd none List.not_mem_nil
    · decide
  have leafPath : verifyPath vouching.leaf [vouching.intermediate] anchor.root vouching.time =
      .ok () := by
    refine verifyPath_of_leadsTo ?_ ?_ ?_ ?_ vouching.leads
    · intro first isFirst second isSecond _
      rw [List.mem_singleton.mp isFirst, List.mem_singleton.mp isSecond]
    · intro other isOther
      rw [List.mem_singleton.mp isOther]
      exact apart
    · rcases vouching.only with none | one
      · rw [none]
        exact List.nil_subset _
      · rw [one]
        exact List.Subset.refl _
    · rcases vouching.only with none | one
      · rw [none]
        decide
      · rw [one]
        show 1 < greatestSteps
        decide
  refine verifyHeader_eq_ok_iff.mpr
    ⟨vouching.leaf, vouching.intermediate, vouching.root, vouching.spelled, ?_⟩
  exact verifyCertificates_eq_ok_iff.mpr
    ⟨vouching.time, vouching.timed, rootPath, leafPath,
      PublicKeyInfo.signingKey_eq_ok_iff.mpr ⟨vouching.elliptic, vouching.keyed⟩⟩

end Parts

/-! ### An anchor that vouches for itself -/

namespace Lettered

/-- An element of less than two hundred and fifty-six bytes. -/
def element (tag : UInt8) (content : Bytes) : Bytes :=
  let length := UInt8.ofNat content.length
  tag :: (if content.length < 0x80 then [length] else [0x81, length]) ++ content

/-- The name of a single letter. -/
def name (letter : UInt8) : Bytes :=
  let letters := element 0x06 [0x55, 0x04, 0x03] ++ element 0x0C [letter]
  element 0x30 (element 0x31 (element 0x30 letters))

/-- A certificate in the name of a letter, for the base point, valid on the first day of 1970. -/
def bytes (letter : UInt8) : Bytes :=
  let algorithm := element 0x30 (element 0x06 Oid.ecdsaSha256.bytes)
  let validity := element 0x17 (Utf8.encode "700101000000Z") ++
    element 0x17 (Utf8.encode "700102000000Z")
  let kind := element 0x06 Oid.ellipticKey.bytes ++ element 0x06 Oid.p256.bytes
  let key := element 0x03 (0x00 :: Curve.p256.bytesOfPoint Curve.p256.base)
  let body := element 0x02 [0x01] ++ algorithm ++ name letter ++ element 0x30 validity ++
    name letter ++ element 0x30 (element 0x30 kind ++ key)
  element 0x30 (element 0x30 body ++ algorithm ++ element 0x03 [0x00])

/-- The certificate of a letter, which can be read. -/
def certificate (letter : UInt8) (readable : (Certificate.ofBytes? (bytes letter)).isSome) :
    Presented :=
  ⟨bytes letter, (Certificate.ofBytes? (bytes letter)).get readable, (Option.some_get _).symm⟩

/-- The anchor bears the first letter. -/
def anchor : TrustAnchor := ⟨certificate 0x41 (by decide +kernel)⟩

/-- Another certificate bears the second. -/
def other : Presented := certificate 0x42 (by decide +kernel)

/-- The entry of a header for a letter. -/
def entry (letter : UInt8) : String := Base64.encode .standard .required (bytes letter)

/-- The anchor is leaf and root at once, and the other certificate stands between them for nothing. -/
def header : Header := ⟨"ES256", none, [entry 0x41, entry 0x42, entry 0x41]⟩

/-- The entries spell the certificates. -/
theorem spelled : List.Forall₂ Spells (header.certificates.take 3)
    [anchor.root, other, anchor.root] :=
  .cons (spells_encode anchor.root) (.cons (spells_encode other)
    (.cons (spells_encode anchor.root) .nil))

/-- The first second of 1970. -/
def time : CertificateTime := ⟨0, 0, 0, false⟩

theorem timed : CertificateTime.ofSeconds? (Instant.seconds ⟨0⟩) = some time := by
  decide

/-- What the certificates hold: the anchor can be used, the other certificate has another name, and the
key of the anchor is the base point. -/
theorem held : checkUsable anchor.root.certificate time = .ok () ∧
    other.certificate.subject.raw ≠ anchor.root.certificate.subject.raw ∧
    anchor.root.certificate.publicKey.algorithm.kind = Oid.ellipticKey ∧
    pointOfInfo? anchor.root.certificate.publicKey.raw = some Curve.p256.base := by
  decide +kernel

/-- The anchor leads to itself. -/
theorem leads : LeadsTo anchor.root time anchor.root [] :=
  .itself rfl (checkUsable_eq_ok_iff.mp held.1)

theorem rootLeads : ∀ carried ∈ some anchor.root, LeadsTo anchor.root time carried [] := by
  intro carried member
  rw [← Option.some.inj member]
  exact leads

theorem apart : other.certificate.subject.raw ≠ anchor.root.certificate.subject.raw :=
  held.2.1

theorem elliptic : anchor.root.certificate.publicKey.algorithm.kind = Oid.ellipticKey :=
  held.2.2.1

theorem keyed : pointOfInfo? anchor.root.certificate.publicKey.raw = some Curve.p256.base :=
  held.2.2.2

/-- The header is accepted. -/
theorem verified : verifyHeader anchor header ⟨0⟩ = .ok Curve.p256.base := by
  refine verifyHeader_of_vouching
    { leaf := anchor.root
      intermediate := other
      root := some anchor.root
      time := time
      between := []
      only := .inl rfl
      spelled, timed, leads, rootLeads, elliptic, keyed } ?_
  dsimp only
  exact apart

end Lettered

/-! ### The check of certificates -/

/-- **The check of certificates is sound.** When it gives a key, for a header or for the text of a
token, all that must speak for the key is there: readable certificates, of which the leaf has the key,
a path from the leaf to the anchor, and one from the root that is carried. All of it holds at the last
whole second of the instant. -/
theorem vouching_of_accepted (anchor : TrustAnchor) (instant : Instant) (key : Point) :
    (∀ header, verifyHeader anchor header instant = .ok key →
      ∃ vouching : anchor.Vouching header instant key,
        vouching.time.instant = instant.milliseconds / 1000 * 1000) ∧
    (∀ text, verifyToken anchor text instant = .ok key →
      ∃ token header, CompactToken.parse text = .ok token ∧ token.readHeader = .ok header ∧
        ∃ vouching : anchor.Vouching header instant key,
          vouching.time.instant = instant.milliseconds / 1000 * 1000) := by
  have sound : ∀ header, verifyHeader anchor header instant = .ok key →
      ∃ vouching : anchor.Vouching header instant key,
        vouching.time.instant = instant.milliseconds / 1000 * 1000 := by
    intro header verified
    obtain ⟨vouching⟩ := vouching_of_verifyHeader verified
    exact ⟨vouching, CertificateTime.instant_of_ofSeconds? vouching.timed⟩
  refine ⟨sound, ?_⟩
  intro text verified
  obtain ⟨token, header, parsed, read, verified⟩ := verifyToken_eq_ok_iff.mp verified
  exact ⟨token, header, parsed, read, sound header verified⟩

/-- An anchor is vouched for by itself. -/
theorem lettered_vouched :
    verifyHeader Lettered.anchor Lettered.header ⟨0⟩ = .ok Curve.p256.base ∧
      ∃ vouching : Lettered.anchor.Vouching Lettered.header ⟨0⟩ Curve.p256.base,
        vouching.time.instant = 0 :=
  ⟨Lettered.verified, (vouching_of_accepted _ _ _).1 _ Lettered.verified⟩

/-- **The check of certificates is complete**, whatever else a header holds. When the certificates can
be read, the intermediate one is not named like the anchor, the leaf leads to the anchor directly or
over the intermediate certificate, a root that is carried leads to the anchor too, and the leaf has a
key of the curve, then the check gives that key. -/
theorem accepted_of_paths {anchor : TrustAnchor} {header : Header} {instant : Instant} {key : Point}
    {leaf intermediate : Presented} {root : Option Presented} {time : CertificateTime}
    (spelled : List.Forall₂ Spells (header.certificates.take 3)
      (leaf :: intermediate :: root.toList))
    (apart : intermediate.certificate.subject.raw ≠ anchor.root.certificate.subject.raw)
    (timed : CertificateTime.ofSeconds? instant.seconds = some time)
    (leads : LeadsTo anchor.root time leaf [] ∨ LeadsTo anchor.root time leaf [intermediate])
    (rootLeads : ∀ carried ∈ root, LeadsTo anchor.root time carried [])
    (elliptic : leaf.certificate.publicKey.algorithm.kind = Oid.ellipticKey)
    (keyed : pointOfInfo? leaf.certificate.publicKey.raw = some key) :
    verifyHeader anchor header instant = .ok key := by
  rcases leads with direct | indirect
  · exact verifyHeader_of_vouching
      { leaf, intermediate, root, spelled, time, timed
        between := []
        only := .inl rfl
        leads := direct
        rootLeads, elliptic, keyed } apart
  · exact verifyHeader_of_vouching
      { leaf, intermediate, root, spelled, time, timed
        between := [intermediate]
        only := .inr rfl
        leads := indirect
        rootLeads, elliptic, keyed } apart

/-- An anchor that is its own leaf and its own root is accepted. -/
theorem lettered_accepted :
    Lettered.other.certificate.subject.raw ≠ Lettered.anchor.root.certificate.subject.raw ∧
      verifyHeader Lettered.anchor Lettered.header ⟨0⟩ = .ok Curve.p256.base :=
  ⟨Lettered.apart,
    accepted_of_paths Lettered.spelled Lettered.apart Lettered.timed (.inl Lettered.leads)
      Lettered.rootLeads Lettered.elliptic Lettered.keyed⟩

end SignedPurchase
