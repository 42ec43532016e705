import SignedPurchase.Proofs.Digest.Schedule
import SignedPurchase.Proofs.Trust.Vouching

/-
**A key that is rolled over.**

An authority that takes a new key issues a certificate for it in its own name, signed with its old key.
Such a certificate does not count against the limits above it, so a leaf that was issued with the new
key has a certification path even to an anchor that allows no authority below it. The walk does not find
that path: the leaf names its issuer as the anchor is named, the anchor is tried first, and when the
leaf's signature does not verify under the anchor's key there is no second try.

* `Walk.isCounted`: every issuer that is visited counts, so nothing is ever exempted;
* `TrustAnchor.Rollover` is a header with the two keys of an authority, `Rollover.leadsTo` its path;
* `Rollover.verifyHeader_of_unsigned`: it is refused for the signature of its leaf;
* `rollovers_refused` puts this together, `Lettered.rolled_refused` is such a header.
-/

namespace SignedPurchase

/-! ### Nothing is exempted -/

section Walks

variable {intermediates visited : List Presented} {anchor current issuer : Presented}
  {time : CertificateTime} {below : Nat}

/-- An issuer that is found for a certificate and bears its own issuer's name is found for itself again,
so the walk would not leave it. -/
theorem Walk.isSelfIssued_of_found
    (unnamed : current.certificate.namesIssuer anchor.certificate = false)
    (found : intermediates.find? (fun candidate =>
      current.certificate.namesIssuer candidate.certificate) = some issuer)
    (rest : Walk intermediates anchor time issuer below visited)
    (fresh : issuer ∉ visited) : issuer.certificate.isSelfIssued = false := by
  by_contra own
  rw [Bool.not_eq_false, Certificate.isSelfIssued, Certificate.namesIssuer_iff] at own
  have named := Certificate.namesIssuer_iff.mp (Walk.named_of_found found)
  have agree : ∀ other : Certificate,
      issuer.certificate.namesIssuer other = current.certificate.namesIssuer other := by
    intro other
    unfold Certificate.namesIssuer
    rw [own, named]
  cases rest with
  | arrived same => exact Walk.bytes_ne_of_found unnamed found same
  | anchored _ again _ =>
    rw [agree, unnamed] at again
    cases again
  | onward _ _ again _ _ =>
    simp only [agree] at again
    rw [found] at again
    cases again
    exact fresh List.mem_cons_self

/-- **Every issuer that is visited counts**: it is an authority that does not bear the name of its own
issuer. -/
theorem Walk.isCounted (walked : Walk intermediates anchor time current below visited) :
    ∀ issuer ∈ visited, issuer.certificate.isCounted = true := by
  induction walked with
  | arrived _ => exact fun issuer none => absurd none List.not_mem_nil
  | anchored _ _ _ => exact fun issuer none => absurd none List.not_mem_nil
  | onward other unnamed found step rest ih =>
    intro issuer member
    rcases List.mem_cons.mp member with rfl | later
    · obtain ⟨fresh, _⟩ := List.nodup_cons.mp (Walk.onward other unnamed found step rest).nodup
      obtain ⟨_, _, admits⟩ := checkStep_eq_ok_iff.mp step
      rw [Certificate.isCounted, admits.authority,
        Walk.isSelfIssued_of_found unnamed found rest fresh]
      rfl
    · exact ih issuer later

/-- A certificate that names the anchor as its issuer is checked against the anchor alone. -/
theorem verifyPath_of_named (usable : current.certificate.IsUsableAt time)
    (other : current.bytes ≠ anchor.bytes)
    (named : current.certificate.issuer.raw = anchor.certificate.subject.raw) :
    verifyPath current intermediates anchor time =
      checkStep current.certificate anchor.certificate time 0 := by
  rw [verifyPath, verifyPathWithin, checkUsable_eq_ok_iff.mpr usable]
  show walk intermediates anchor time greatestSteps (3 + 1) current 0 = _
  rw [walk, if_neg other, if_pos (Certificate.namesIssuer_iff.mpr named)]

end Walks

/-! ### Authorities with two keys -/

/-- A header with the two keys of one authority: the anchor has the old one, the intermediate
certificate, which the anchor issued in its own name, has the new one, and the leaf was issued with the
new one. All of them can be used, and the leaf has a key of the curve. -/
structure TrustAnchor.Rollover (anchor : TrustAnchor) (header : Header) (instant : Instant)
    (key : Point) where
  leaf : Presented
  intermediate : Presented
  root : Option Presented
  spelled : List.Forall₂ Spells (header.certificates.take 3)
    (leaf :: intermediate :: root.toList)
  time : CertificateTime
  timed : CertificateTime.ofSeconds? instant.seconds = some time
  anchorUsable : anchor.root.certificate.IsUsableAt time
  anchorAuthority : anchor.root.certificate.isAuthority = true
  /-- The intermediate certificate bears the name of the anchor, as subject and as issuer. -/
  renamed : intermediate.certificate.subject.raw = anchor.root.certificate.subject.raw
  selfIssued : intermediate.certificate.isSelfIssued = true
  /-- The key is another one. -/
  rekeyed : intermediate.certificate.publicKey.key ≠ anchor.root.certificate.publicKey.key
  signed : intermediate.certificate.isSignedBy anchor.root.certificate = true
  usable : intermediate.certificate.IsUsableAt time
  admits : intermediate.certificate.Admits 0
  leafUsable : leaf.certificate.IsUsableAt time
  leafIssued : leaf.certificate.IsIssuedBy intermediate.certificate
  elliptic : leaf.certificate.publicKey.algorithm.kind = Oid.ellipticKey
  keyed : pointOfInfo? leaf.certificate.publicKey.raw = some key
  rootLeads : ∀ carried ∈ root, LeadsTo anchor.root time carried []

namespace TrustAnchor.Rollover

variable {anchor : TrustAnchor} {header : Header} {instant : Instant} {key : Point}
  (rollover : anchor.Rollover header instant key)

/-- The intermediate certificate does not count, so the anchor admits it whatever its limit is. -/
theorem anchor_admits :
    anchor.root.certificate.Admits
      ([rollover.intermediate.certificate].countP Certificate.isCounted) := by
  refine ⟨rollover.anchorAuthority, fun allowed _ => ?_⟩
  rw [List.countP_singleton, Certificate.isCounted, rollover.selfIssued, Bool.not_true,
    Bool.and_false]
  exact Nat.zero_le allowed

/-- **There is a certification path** from the leaf over the new key to the anchor. -/
theorem leadsTo : LeadsTo anchor.root rollover.time rollover.leaf [rollover.intermediate] := by
  have own := Certificate.namesIssuer_iff.mp rollover.selfIssued
  have issued : rollover.intermediate.certificate.IsIssuedBy anchor.root.certificate :=
    ⟨own.trans rollover.renamed, rollover.signed⟩
  refine .issued ⟨.cons_cons rollover.leafIssued (.cons_cons issued (.singleton _)), ?_, ?_⟩
  · intro certificate member
    simp only [List.map_cons, List.map_nil, List.cons_append, List.nil_append, List.mem_cons,
      List.not_mem_nil, or_false] at member
    rcases member with rfl | rfl | rfl
    · exact rollover.leafUsable
    · exact rollover.usable
    · exact rollover.anchorUsable
  · intro first between issuer above split
    obtain ⟨_, split⟩ := List.cons.inj split
    -- The issuer is the intermediate certificate or, after it, the anchor.
    cases between with
    | nil =>
      obtain ⟨rfl, _⟩ := List.cons.inj split
      exact rollover.admits
    | cons lower between =>
      obtain ⟨rfl, later⟩ := List.cons.inj split
      cases between with
      | nil =>
        obtain ⟨rfl, _⟩ := List.cons.inj later
        exact rollover.anchor_admits
      | cons _ _ => simp at later

/-- The leaf names the anchor as its issuer. -/
theorem leaf_named :
    rollover.leaf.certificate.issuer.raw = anchor.root.certificate.subject.raw :=
  rollover.leafIssued.named.trans rollover.renamed

/-- A root that is carried is found good, so that the leaf decides. -/
theorem verifyHeader_eq : verifyHeader anchor header instant =
    (requirePath "leaf" rollover.leaf [rollover.intermediate] anchor rollover.time >>= fun _ =>
      .ok key) := by
  have rootPath : ∀ carried ∈ rollover.root,
      verifyPath carried [] anchor.root rollover.time = .ok () := by
    intro carried member
    refine verifyPath_of_leadsTo ?_ ?_ (List.nil_subset _) (by decide)
      (rollover.rootLeads carried member)
    · exact fun first none => absurd none List.not_mem_nil
    · exact fun other none => absurd none List.not_mem_nil
  rw [verifyHeader_of_spelled rollover.spelled,
    verifyCertificates_of_rootPath rollover.timed rootPath,
    PublicKeyInfo.signingKey_eq_ok_iff.mpr ⟨rollover.elliptic, rollover.keyed⟩]

/-- A leaf that the new key is not needed for is accepted: it is the anchor, or its signature verifies
under the old key too. -/
theorem verifyHeader_of_signed
    (direct : rollover.leaf.bytes = anchor.root.bytes ∨
      rollover.leaf.certificate.isSignedBy anchor.root.certificate = true) :
    verifyHeader anchor header instant = .ok key := by
  have leafPath : verifyPath rollover.leaf [rollover.intermediate] anchor.root rollover.time =
      .ok () := by
    by_cases same : rollover.leaf.bytes = anchor.root.bytes
    · exact verifyPath_eq_ok_iff.mpr ⟨rollover.leafUsable, [], .arrived same, by decide⟩
    · rw [verifyPath_of_named rollover.leafUsable same rollover.leaf_named]
      exact checkStep_eq_ok_iff.mpr ⟨direct.resolve_left same, rollover.anchorUsable,
        rollover.anchorAuthority, fun allowed _ => Nat.zero_le allowed⟩
  rw [rollover.verifyHeader_eq, requirePath_eq_ok_iff.mpr leafPath]
  rfl

/-- **Any other leaf is refused**, since its signature does not verify under the old key. -/
theorem verifyHeader_of_unsigned (other : rollover.leaf.bytes ≠ anchor.root.bytes)
    (unsigned : rollover.leaf.certificate.isSignedBy anchor.root.certificate = false) :
    verifyHeader anchor header instant = .error (.rejectedChain ("leaf: " ++
      (PathFault.wrongSignature rollover.leaf.certificate anchor.root.certificate).message)) := by
  have leafPath : verifyPath rollover.leaf [rollover.intermediate] anchor.root rollover.time =
      .error (.wrongSignature rollover.leaf.certificate anchor.root.certificate) := by
    rw [verifyPath_of_named rollover.leafUsable other rollover.leaf_named, checkStep,
      checkSignature, if_neg (Bool.eq_false_iff.mp unsigned)]
  rw [rollover.verifyHeader_eq, requirePath, leafPath]
  rfl

end TrustAnchor.Rollover

/-! ### The exemption and the walk -/

/-- **Certificates that an authority issued to itself are exempted in vain.** On every path that is found
good, each issuer between the start and the anchor counts against the limits above it. A header with the
two keys of an authority has a certification path, whatever limit the anchor sets; it is accepted only
when the new key is not needed, and refused for the signature of its leaf otherwise. -/
theorem rollovers_refused (anchor : TrustAnchor) :
    (∀ start intermediates time, verifyPath start intermediates anchor.root time = .ok () →
      ∃ visited, Walk intermediates anchor.root time start 0 visited ∧
        ∀ issuer ∈ visited, issuer.certificate.isCounted = true) ∧
    ∀ header instant key (rollover : anchor.Rollover header instant key),
      LeadsTo anchor.root rollover.time rollover.leaf [rollover.intermediate] ∧
      (verifyHeader anchor header instant = .ok key ↔
        rollover.leaf.bytes = anchor.root.bytes ∨
          rollover.leaf.certificate.isSignedBy anchor.root.certificate = true) ∧
      (rollover.leaf.bytes ≠ anchor.root.bytes →
        rollover.leaf.certificate.isSignedBy anchor.root.certificate = false →
        verifyHeader anchor header instant = .error (.rejectedChain ("leaf: " ++
          (PathFault.wrongSignature rollover.leaf.certificate
            anchor.root.certificate).message))) := by
  refine ⟨?_, ?_⟩
  · intro start intermediates time verified
    obtain ⟨_, visited, walked, _⟩ := verifyPath_eq_ok_iff.mp verified
    exact ⟨visited, walked, walked.isCounted⟩
  · intro header instant key rollover
    refine ⟨rollover.leadsTo, ⟨?_, rollover.verifyHeader_of_signed⟩,
      rollover.verifyHeader_of_unsigned⟩
    intro accepted
    by_contra neither
    obtain ⟨other, unsigned⟩ := not_or.mp neither
    rw [rollover.verifyHeader_of_unsigned other (Bool.eq_false_iff.mpr unsigned)] at accepted
    cases accepted

/-! ### Certificates with signatures -/

/-- A signature by a pair of scalars, with the digest in the form that can be evaluated. -/
theorem Certificate.isSignedBy_eq_verifies {certificate issuer : Certificate}
    (elliptic : Scheme.ofAlgorithm? certificate.signatureAlgorithm = some (.elliptic .sha256)) :
    certificate.isSignedBy issuer =
      match issuer.publicKey.curve? with
      | none => false
      | some curve =>
        match curve.pointOfBytes? issuer.publicKey.key,
          PublicKeyInfo.pair? certificate.signature with
        | some point, some pair => Ecdsa.verifies curve point
            (((Digest.blocks 64 8 certificate.signed).foldl Digest.Sha256.compressLatest
              Digest.Sha256.initial).toList.flatMap fun word => Bytes.ofNat 4 word.toNat) pair
        | _, _ => false := by
  unfold isSignedBy
  rw [elliptic, ← Digest.sha256_eq_foldl]
  rfl

namespace Lettered

/-- An element whose length takes two bytes. -/
def longElement (tag : UInt8) (content : Bytes) : Bytes :=
  tag :: 0x82 :: (Bytes.ofNat 2 content.length ++ content)

/-- What one letter states of the key of another, and of how far that one is an issuer. -/
def statement (issuer subject : UInt8) (key : Point) (standing : Bytes) : Bytes :=
  let algorithm := element 0x30 (element 0x06 Oid.ecdsaSha256.bytes)
  let validity := element 0x17 (Utf8.encode "700101000000Z") ++
    element 0x17 (Utf8.encode "700102000000Z")
  let kind := element 0x06 Oid.ellipticKey.bytes ++ element 0x06 Oid.p256.bytes
  let point := element 0x03 (0x00 :: Curve.p256.bytesOfPoint key)
  let constraints := element 0x30 (element 0x06 Extension.basicConstraints.bytes ++
    element 0x01 [0xFF] ++ element 0x04 standing)
  element 0x30 (element 0xA0 (element 0x02 [0x02]) ++ element 0x02 [0x01] ++ algorithm ++
    name issuer ++ element 0x30 validity ++ name subject ++
    element 0x30 (element 0x30 kind ++ point) ++ element 0xA3 (element 0x30 constraints))

/-- A statement with a signature. The first scalar is that of the base point, as for a secret of one. -/
def sealed (statement : Bytes) (scalar : Nat) : Bytes :=
  let algorithm := element 0x30 (element 0x06 Oid.ecdsaSha256.bytes)
  let pair := element 0x30 (element 0x02 (Bytes.ofNat 32 Curve.p256.base.x) ++
    element 0x02 (Bytes.ofNat 32 scalar))
  longElement 0x30 (statement ++ algorithm ++ element 0x03 (0x00 :: pair))

/-- The certificate of bytes that can be read. -/
def presented (bytes : Bytes) (readable : (Certificate.ofBytes? bytes).isSome) : Presented :=
  ⟨bytes, (Certificate.ofBytes? bytes).get readable, (Option.some_get _).symm⟩

/-- The base point added to itself. -/
def secondPoint : Point :=
  ⟨0x7cf27b188d034f7e8a52380304b51ac3c08969e277f21b35a60b48fc47669978,
    0x07775510db8ed040293d9ac69f7430dbba7dade63ce982299e04b79d227873d1⟩

/-- An authority. -/
def authority : Bytes := element 0x30 (element 0x01 [0xFF])

/-- An authority that allows no other below it. -/
def lowestAuthority : Bytes := element 0x30 (element 0x01 [0xFF] ++ element 0x02 [0x00])

/-- Something else than an authority. -/
def noAuthority : Bytes := element 0x30 []

/-! ### An authority with two keys -/

/-- The anchor allows no authority below it. Its own signature is never looked at. -/
def rolling : TrustAnchor :=
  ⟨presented (sealed (statement 0x41 0x41 Curve.p256.base lowestAuthority) 1) (by decide +kernel)⟩

/-- The certificate of its second key. -/
def rolled : Presented :=
  presented (sealed (statement 0x41 0x41 secondPoint authority)
    0x562e5b1f64feabc61c72f9a74399b0ae641ca28dc545e3fd66865b789ddad7dc) (by decide +kernel)

/-- A leaf that was issued with the second key. -/
def rolledLeaf : Presented :=
  presented (sealed (statement 0x41 0x4C Curve.p256.base noAuthority)
    0x463235aa3aea629abf65d2bf10f8d46d4844928c6ba7aa3dfb0bf4eace7638b8) (by decide +kernel)

/-- The header of the leaf, the second key and the anchor. -/
def rolledHeader : Header :=
  ⟨"ES256", none, [rolledLeaf, rolled, rolling.root].map fun certificate =>
    Base64.encode .standard .required certificate.bytes⟩

/-- What the anchor holds. -/
theorem rolling_held : checkUsable rolling.root.certificate time = .ok () ∧
    rolling.root.certificate.isAuthority = true ∧
    rolling.root.certificate.pathLimit? = some 0 := by
  decide +kernel

/-- What the certificate of the second key has of the anchor, and what it has not. -/
theorem rolled_named :
    rolled.certificate.subject.raw = rolling.root.certificate.subject.raw ∧
      rolled.certificate.isSelfIssued = true ∧
      rolled.certificate.publicKey.key ≠ rolling.root.certificate.publicKey.key := by
  decide +kernel

theorem rolled_held : checkUsable rolled.certificate time = .ok () ∧
    checkAuthority rolled.certificate 0 = .ok () := by
  decide +kernel

theorem rolledLeaf_held : checkUsable rolledLeaf.certificate time = .ok () ∧
    rolledLeaf.certificate.namesIssuer rolled.certificate = true ∧
    rolledLeaf.bytes ≠ rolling.root.bytes := by
  decide +kernel

theorem rolledLeaf_keyed :
    rolledLeaf.certificate.publicKey.algorithm.kind = Oid.ellipticKey ∧
      pointOfInfo? rolledLeaf.certificate.publicKey.raw = some Curve.p256.base := by
  decide +kernel

theorem rolled_signed : rolled.certificate.isSignedBy rolling.root.certificate = true := by
  rw [Certificate.isSignedBy_eq_verifies (by decide +kernel)]
  decide +kernel

/-- The leaf is signed with the second key and not with the first. -/
theorem rolledLeaf_signed : rolledLeaf.certificate.isSignedBy rolled.certificate = true ∧
    rolledLeaf.certificate.isSignedBy rolling.root.certificate = false := by
  rw [Certificate.isSignedBy_eq_verifies (by decide +kernel),
    Certificate.isSignedBy_eq_verifies (by decide +kernel)]
  decide +kernel

/-- The header is one with two keys. -/
def rolledOver : rolling.Rollover rolledHeader ⟨0⟩ Curve.p256.base where
  leaf := rolledLeaf
  intermediate := rolled
  root := some rolling.root
  spelled := .cons (spells_encode rolledLeaf)
    (.cons (spells_encode rolled) (.cons (spells_encode rolling.root) .nil))
  time := time
  timed := timed
  anchorUsable := checkUsable_eq_ok_iff.mp rolling_held.1
  anchorAuthority := rolling_held.2.1
  renamed := rolled_named.1
  selfIssued := rolled_named.2.1
  rekeyed := rolled_named.2.2
  signed := rolled_signed
  usable := checkUsable_eq_ok_iff.mp rolled_held.1
  admits := checkAuthority_eq_ok_iff.mp rolled_held.2
  leafUsable := checkUsable_eq_ok_iff.mp rolledLeaf_held.1
  leafIssued := ⟨Certificate.namesIssuer_iff.mp rolledLeaf_held.2.1, rolledLeaf_signed.1⟩
  elliptic := rolledLeaf_keyed.1
  keyed := rolledLeaf_keyed.2
  rootLeads := by
    intro carried member
    rw [← Option.some.inj member]
    exact .itself rfl (checkUsable_eq_ok_iff.mp rolling_held.1)

/-- **A leaf that was issued with the second key is refused**, although it has a certification path to
an anchor that allows no authority below it. -/
theorem rolled_refused : ∃ rollover : rolling.Rollover rolledHeader ⟨0⟩ Curve.p256.base,
    rolling.root.certificate.pathLimit? = some 0 ∧
    LeadsTo rolling.root rollover.time rollover.leaf [rollover.intermediate] ∧
    verifyHeader rolling rolledHeader ⟨0⟩ = .error (.rejectedChain ("leaf: " ++
      (PathFault.wrongSignature rolledLeaf.certificate rolling.root.certificate).message)) :=
  ⟨rolledOver, rolling_held.2.2, rolledOver.leadsTo,
    rolledOver.verifyHeader_of_unsigned rolledLeaf_held.2.2 rolledLeaf_signed.2⟩

/-! ### An authority below another -/

/-- An anchor that sets no limit. -/
def ruling : TrustAnchor :=
  ⟨presented (sealed (statement 0x41 0x41 Curve.p256.base authority) 1) (by decide +kernel)⟩

/-- An authority with a name of its own. -/
def ruled : Presented :=
  presented (sealed (statement 0x41 0x42 secondPoint authority)
    0x2ce215873ff15d21ef86d6dc5c10732d6b3df335cbd7fe38815cafab56efe6a9) (by decide +kernel)

/-- A leaf that was issued by that authority. -/
def ruledLeaf : Presented :=
  presented (sealed (statement 0x42 0x4C Curve.p256.base noAuthority)
    0x053bbd29511c7c9f6c2ac9db1c922ec433cb625b008c61c311c8c2718c1136a4) (by decide +kernel)

theorem ruled_held : checkUsable ruling.root.certificate time = .ok () ∧
    checkAuthority ruling.root.certificate 1 = .ok () ∧
    ruled.bytes ≠ ruling.root.bytes ∧
    ruled.certificate.namesIssuer ruling.root.certificate = true ∧
    ruled.certificate.isSelfIssued = false ∧
    checkUsable ruled.certificate time = .ok () ∧
    checkAuthority ruled.certificate 0 = .ok () ∧
    checkUsable ruledLeaf.certificate time = .ok () ∧
    ruledLeaf.bytes ≠ ruling.root.bytes ∧
    ruledLeaf.certificate.namesIssuer ruling.root.certificate = false ∧
    ruledLeaf.certificate.namesIssuer ruled.certificate = true := by
  decide +kernel

theorem ruled_signed : ruled.certificate.isSignedBy ruling.root.certificate = true ∧
    ruledLeaf.certificate.isSignedBy ruled.certificate = true := by
  rw [Certificate.isSignedBy_eq_verifies (by decide +kernel),
    Certificate.isSignedBy_eq_verifies (by decide +kernel)]
  decide +kernel

/-- The leaf leads over that authority to the anchor. -/
theorem ruledLeaf_verified : verifyPath ruledLeaf [ruled] ruling.root time = .ok () := by
  obtain ⟨anchorUsable, anchorAdmits, other, named, counted, usable, admits, leafUsable, leafOther,
    unnamed, leafNamed⟩ := ruled_held
  have last : Walk [ruled] ruling.root time ruled 1 [] :=
    .anchored other named (checkStep_eq_ok_iff.mpr ⟨ruled_signed.1,
      checkUsable_eq_ok_iff.mp anchorUsable, checkAuthority_eq_ok_iff.mp anchorAdmits⟩)
  have below : belowNext ruled.certificate 0 = 1 := by
    rw [belowNext, counted]
    rfl
  have walked : Walk [ruled] ruling.root time ruledLeaf 0 [ruled] :=
    .onward leafOther unnamed (List.find?_cons_of_pos leafNamed) (checkStep_eq_ok_iff.mpr
      ⟨ruled_signed.2, checkUsable_eq_ok_iff.mp usable, checkAuthority_eq_ok_iff.mp admits⟩)
      (below ▸ last)
  exact verifyPath_eq_ok_iff.mpr ⟨checkUsable_eq_ok_iff.mp leafUsable, [ruled], walked, by decide⟩

/-- The authority below the anchor counts, and the second key of the other anchor does not help. -/
theorem ruled_and_rolled :
    verifyPath ruledLeaf [ruled] ruling.root time = .ok () ∧
      (∃ visited, Walk [ruled] ruling.root time ruledLeaf 0 visited ∧
        ∀ issuer ∈ visited, issuer.certificate.isCounted = true) ∧
      verifyHeader rolling rolledHeader ⟨0⟩ = .error (.rejectedChain ("leaf: " ++
        (PathFault.wrongSignature rolledLeaf.certificate rolling.root.certificate).message)) :=
  ⟨ruledLeaf_verified, (rollovers_refused ruling).1 _ _ _ ruledLeaf_verified,
    ((rollovers_refused rolling).2 _ _ _ rolledOver).2.2 rolledLeaf_held.2.2 rolledLeaf_signed.2⟩

end Lettered

end SignedPurchase
