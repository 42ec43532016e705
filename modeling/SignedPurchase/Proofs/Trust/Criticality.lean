import SignedPurchase.Proofs.Trust.Positions
import SignedPurchase.Proofs.Trust.Rollover

/-
**Extensions that must be understood.**

An extension that is marked as critical must be understood, or the certificate that carries it is not to
be used. The check judges an extension by its kind alone. A kind that is not known is refused wherever it
stands. A kind that is known is let pass whatever its content is, one that cannot be read included; only
the constraints of an issuer are read.

* `Extension.Reading` says which contents can be read, `Extension.IsInterpreted` when an extension is
  understood, kind and content;
* `checkUsable_congr` and `checkIssuer_congr`: other contents pass the checks as well;
* `Vouching.isKnown_of_critical` and `Vouching.exists_constraints` are what holds of the certificates
  that a token is accepted on;
* `critical_by_kind` puts this together, `Lettered.unread_accepted` is a token that is accepted on a leaf
  whose critical extension cannot be read.
-/

namespace SignedPurchase

/-! ### What it is to understand an extension -/

/-- Which contents of which kinds can be read. Of constraints, they are those that are read. -/
structure Extension.Reading where
  readable : Oid → Bytes → Bool
  constraints : ∀ value,
    readable Extension.basicConstraints value = (BasicConstraints.read? value).isSome

/-- An extension is interpreted when its kind is known and its content can be read. -/
structure Extension.IsInterpreted (reading : Extension.Reading) (extension : Extension) : Prop where
  known : extension.isKnown = true
  read : reading.readable extension.kind extension.value = true

/-- Two extensions are of one kind, and critical or not. -/
structure Extension.Resembles (extension other : Extension) : Prop where
  kind : extension.kind = other.kind
  critical : extension.critical = other.critical

/-- Two extensions differ in their content at most, and not even there when they are constraints. -/
structure Extension.Matches (extension other : Extension) : Prop extends
    Extension.Resembles extension other where
  value : extension.kind = Extension.basicConstraints → extension.value = other.value

/-! ### What the checks do not look at -/

section Checks

variable {certificate : Certificate} {extensions : List Extension} {time : CertificateTime}
  {below : Nat}

theorem Extension.Resembles.isKnown_eq {extension other : Extension}
    (resembles : extension.Resembles other) : extension.isKnown = other.isKnown := by
  unfold isKnown
  rw [resembles.kind]

/-- Extensions that resemble each other stand in the way together. -/
theorem understood_congr {first second : List Extension}
    (alike : List.Forall₂ Extension.Resembles first second) :
    (∀ extension ∈ first, extension.critical = true → extension.isKnown = true) ↔
      ∀ extension ∈ second, extension.critical = true → extension.isKnown = true := by
  induction alike with
  | nil => exact Iff.rfl
  | cons here _ ih =>
    rw [List.forall_mem_cons, List.forall_mem_cons, ih, here.critical, here.isKnown_eq]

/-- **Whether a certificate can be used** depends on the kinds of its extensions, not on what they
say. -/
theorem checkUsable_congr
    (alike : List.Forall₂ Extension.Resembles certificate.extensions extensions) :
    checkUsable { certificate with extensions } time = .ok () ↔
      checkUsable certificate time = .ok () := by
  rw [checkUsable_eq_ok_iff, checkUsable_eq_ok_iff]
  refine ⟨?_, ?_⟩
  · rintro ⟨begun, lasting, understood⟩
    exact ⟨begun, lasting, (understood_congr alike).mpr understood⟩
  · rintro ⟨begun, lasting, understood⟩
    exact ⟨begun, lasting, (understood_congr alike).mp understood⟩

/-- What a certificate says of its subject as an issuer is what its constraints say. -/
theorem Certificate.standing_congr
    (alike : List.Forall₂ Extension.Matches certificate.extensions extensions) :
    ({ certificate with extensions } : Certificate).standing = certificate.standing := by
  have filtered := List.rel_filter (p := fun extension : Extension =>
      decide (extension.kind = Extension.basicConstraints))
    (q := fun extension => decide (extension.kind = Extension.basicConstraints))
    (fun first second (here : first.Matches second) => by
      show decide _ = true ↔ decide _ = true
      rw [here.kind]) alike
  have kinds : ∀ extension ∈ certificate.extensions.filter fun extension =>
      decide (extension.kind = Extension.basicConstraints),
      extension.kind = Extension.basicConstraints :=
    fun extension member => of_decide_eq_true (List.mem_filter.mp member).2
  unfold standing
  dsimp only
  generalize certificate.extensions.filter _ = first at filtered kinds ⊢
  generalize extensions.filter _ = second at filtered ⊢
  cases filtered with
  | nil => rfl
  | cons here rest =>
    cases rest with
    | nil =>
      dsimp only
      rw [here.value (kinds _ List.mem_cons_self)]
    | cons _ _ => rfl

/-- An issuer is an authority by what it says of itself. -/
theorem Certificate.admits_congr
    (alike : List.Forall₂ Extension.Matches certificate.extensions extensions) :
    ({ certificate with extensions } : Certificate).Admits below ↔ certificate.Admits below := by
  have standing := Certificate.standing_congr alike
  have authority : ({ certificate with extensions } : Certificate).isAuthority =
      certificate.isAuthority := by
    unfold isAuthority
    rw [standing]
  have limit : ({ certificate with extensions } : Certificate).pathLimit? =
      certificate.pathLimit? := by
    unfold pathLimit?
    rw [standing]
  refine ⟨?_, ?_⟩
  · rintro ⟨isAuthority, within⟩
    exact ⟨authority ▸ isAuthority, limit ▸ within⟩
  · rintro ⟨isAuthority, within⟩
    exact ⟨authority.trans isAuthority, fun allowed found => within allowed (limit ▸ found)⟩

/-- **Whether an issuer may issue** depends on the kinds of its extensions and on its constraints. -/
theorem checkIssuer_congr
    (alike : List.Forall₂ Extension.Matches certificate.extensions extensions) :
    checkIssuer { certificate with extensions } time below = .ok () ↔
      checkIssuer certificate time below = .ok () := by
  have parts : ∀ issuer : Certificate, checkIssuer issuer time below = .ok () ↔
      checkUsable issuer time = .ok () ∧ checkAuthority issuer below = .ok () := by
    intro issuer
    unfold checkIssuer
    cases checkUsable issuer time with
    | error fault => simp only [reduceCtorEq, false_and]
    | ok done => simp only [true_and]
  rw [parts, parts, checkUsable_congr (alike.imp fun _ _ here => here.toResembles),
    checkAuthority_eq_ok_iff, checkAuthority_eq_ok_iff, Certificate.admits_congr alike]

end Checks

/-! ### What an authority states -/

/-- The constraints of an authority can be read, all of them. -/
theorem Certificate.exists_constraints_of_isAuthority {certificate : Certificate}
    (authority : certificate.isAuthority = true) :
    ∀ extension ∈ certificate.extensions, extension.kind = Extension.basicConstraints →
      ∃ constraints, BasicConstraints.read? extension.value = some constraints := by
  intro extension member kind
  have found : extension ∈ certificate.extensions.filter fun extension =>
      decide (extension.kind = Extension.basicConstraints) :=
    List.mem_filter.mpr ⟨member, decide_eq_true kind⟩
  unfold isAuthority standing at authority
  generalize certificate.extensions.filter _ = constrained at authority found
  -- It states its constraints once, so the extension is the one that is read.
  match constrained, found with
  | [single], found =>
    obtain rfl := List.mem_singleton.mp found
    dsimp only at authority
    cases read : BasicConstraints.read? extension.value with
    | none =>
      rw [read] at authority
      cases authority
    | some constraints => exact ⟨constraints, rfl⟩
  | _ :: _ :: _, _ => cases authority

/-! ### What a token is accepted on -/

section Paths

variable {anchor start : Presented} {time : CertificateTime} {between : List Presented}

/-- Every issuer of a path is an authority. -/
theorem LeadsTo.isAuthority (leads : LeadsTo anchor time start between)
    (other : start.bytes ≠ anchor.bytes) :
    ∀ issuer ∈ between.map (·.certificate) ++ [anchor.certificate], issuer.isAuthority = true := by
  cases leads with
  | itself same _ => exact absurd same other
  | issued path =>
    intro issuer member
    obtain ⟨lower, above, split⟩ := List.append_of_mem member
    exact (path.admitted _ lower issuer above (congrArg _ split)).authority

end Paths

namespace TrustAnchor.Vouching

variable {anchor : TrustAnchor} {header : Header} {instant : Instant} {key : Point}
  (vouching : anchor.Vouching header instant key)

/-- The issuers from the leaf to the anchor, of which an anchor that is the leaf needs none. -/
def issuers : List Certificate :=
  if vouching.leaf.bytes = anchor.root.bytes then []
  else vouching.between.map (·.certificate) ++ [anchor.root.certificate]

/-- The certificates from the leaf to the anchor, and the root that is carried. -/
def certificates : List Certificate :=
  vouching.leaf.certificate :: (vouching.between.map (·.certificate) ++ [anchor.root.certificate]) ++
    vouching.root.toList.map (·.certificate)

/-- **Every extension that must be understood is of a known kind.** -/
theorem isKnown_of_critical : ∀ certificate ∈ vouching.certificates,
    ∀ extension ∈ certificate.extensions, extension.critical = true → extension.isKnown = true := by
  intro certificate member
  have usable : certificate.IsUsableAt vouching.time := by
    rcases List.mem_append.mp member with onPath | carried
    · exact vouching.leads.isUsableAt certificate onPath
    · obtain ⟨root, isRoot, rfl⟩ := List.mem_map.mp carried
      exact (vouching.rootLeads root (Option.mem_toList.mp isRoot)).isUsableAt _
        List.mem_cons_self
  exact usable.understood

/-- **The constraints of every issuer can be read.** -/
theorem exists_constraints : ∀ issuer ∈ vouching.issuers, ∀ extension ∈ issuer.extensions,
    extension.kind = Extension.basicConstraints →
      ∃ constraints, BasicConstraints.read? extension.value = some constraints := by
  intro issuer member
  unfold issuers at member
  split at member
  · exact absurd member List.not_mem_nil
  · rename_i other
    exact Certificate.exists_constraints_of_isAuthority
      (vouching.leads.isAuthority other issuer member)

end TrustAnchor.Vouching

/-- **A critical extension is judged by its kind.** On all certificates that a token is accepted on, the
root that it carries included, each extension that must be understood is of a known kind. It is
interpreted exactly when its content can be read, which holds of the constraints of every issuer. Of
nothing else does it have to hold: a certificate can be used as well with other contents, and so can an
issuer with other contents than its constraints. -/
theorem critical_by_kind (anchor : TrustAnchor) (instant : Instant) (reading : Extension.Reading) :
    (∀ text key, verifyToken anchor text instant = .ok key →
      ∃ token header, CompactToken.parse text = .ok token ∧ token.readHeader = .ok header ∧
        ∃ vouching : anchor.Vouching header instant key, vouching.IsWalked ∧
          ∀ certificate ∈ vouching.certificates, ∀ extension ∈ certificate.extensions,
            extension.critical = true →
              extension.isKnown = true ∧
              (extension.IsInterpreted reading ↔
                reading.readable extension.kind extension.value = true) ∧
              (certificate ∈ vouching.issuers → extension.kind = Extension.basicConstraints →
                extension.IsInterpreted reading)) ∧
    (∀ certificate extensions time,
      List.Forall₂ Extension.Resembles certificate.extensions extensions →
        (checkUsable { certificate with extensions } time = .ok () ↔
          checkUsable certificate time = .ok ())) ∧
    ∀ certificate extensions time below,
      List.Forall₂ Extension.Matches certificate.extensions extensions →
        (checkIssuer { certificate with extensions } time below = .ok () ↔
          checkIssuer certificate time below = .ok ()) := by
  refine ⟨?_, fun _ _ _ alike => checkUsable_congr alike,
    fun _ _ _ _ alike => checkIssuer_congr alike⟩
  intro text key verified
  obtain ⟨token, header, parsed, read, verified⟩ := verifyToken_eq_ok_iff.mp verified
  obtain ⟨vouching, walked⟩ := exists_isWalked_of_verifyHeader verified
  refine ⟨token, header, parsed, read, vouching, walked, ?_⟩
  intro certificate member extension carried critical
  have known := vouching.isKnown_of_critical certificate member extension carried critical
  refine ⟨known, ⟨fun interpreted => interpreted.read, fun readable => ⟨known, readable⟩⟩, ?_⟩
  intro issuing kind
  obtain ⟨constraints, found⟩ := vouching.exists_constraints certificate issuing extension carried kind
  refine ⟨known, ?_⟩
  rw [kind, reading.constraints, found]
  rfl

/-! ### A leaf with an extension that cannot be read -/

namespace Lettered

/-- A leaf whose constraints are critical and consist of nothing that could be read. -/
def unreadLeaf : Presented :=
  presented (sealed (statement 0x41 0x4C Curve.p256.base (element 0x05 []))
    0x1f4abb2c17f337da55219ba7083782d0605086ea67577c7182ab9f209c1d6c5a) (by decide +kernel)

/-- The entries of a header with that leaf, another certificate and the anchor that issued the leaf. -/
def unreadEntries : List String :=
  [unreadLeaf, ruled, ruling.root].map fun certificate =>
    Base64.encode .standard .required certificate.bytes

/-- A token that carries them and nothing else. -/
def unreadToken : CompactToken := .written "ES256" unreadEntries [] []

theorem unread_spelled :
    List.Forall₂ Spells (unreadEntries.take 3) [unreadLeaf, ruled, ruling.root] :=
  .cons (spells_encode unreadLeaf) (.cons (spells_encode ruled)
    (.cons (spells_encode ruling.root) .nil))

/-- The one extension of the leaf is critical and of a known kind, but cannot be read. -/
theorem unread_extension : ∃ extension ∈ unreadLeaf.certificate.extensions,
    extension.critical = true ∧ extension.kind = Extension.basicConstraints ∧
      BasicConstraints.read? extension.value = none := by
  decide +kernel

theorem unread_held : checkUsable unreadLeaf.certificate time = .ok () ∧
    unreadLeaf.bytes ≠ ruling.root.bytes ∧
    unreadLeaf.certificate.namesIssuer ruling.root.certificate = true ∧
    checkUsable ruling.root.certificate time = .ok () ∧
    checkAuthority ruling.root.certificate 0 = .ok () ∧
    unreadLeaf.certificate.publicKey.algorithm.kind = Oid.ellipticKey ∧
    pointOfInfo? unreadLeaf.certificate.publicKey.raw = some Curve.p256.base := by
  decide +kernel

theorem unread_signed : unreadLeaf.certificate.isSignedBy ruling.root.certificate = true := by
  rw [Certificate.isSignedBy_eq_verifies (by decide +kernel)]
  decide +kernel

/-- The header of the token is accepted. -/
theorem unread_verified :
    verifyHeader ruling ⟨"ES256", none, unreadEntries⟩ ⟨0⟩ = .ok Curve.p256.base := by
  obtain ⟨usable, other, named, anchorUsable, admits, elliptic, keyed⟩ := unread_held
  have rootPath : ∀ carried ∈ some ruling.root,
      verifyPath carried [] ruling.root time = .ok () := by
    intro carried member
    rw [← Option.some.inj member]
    exact verifyPath_eq_ok_iff.mpr
      ⟨checkUsable_eq_ok_iff.mp anchorUsable, [], .arrived rfl, by decide⟩
  have leafPath : verifyPath unreadLeaf [ruled] ruling.root time = .ok () := by
    rw [verifyPath_of_named (checkUsable_eq_ok_iff.mp usable) other
      (Certificate.namesIssuer_iff.mp named)]
    exact checkStep_eq_ok_iff.mpr ⟨unread_signed, checkUsable_eq_ok_iff.mp anchorUsable,
      checkAuthority_eq_ok_iff.mp admits⟩
  exact verifyHeader_eq_ok_iff.mpr ⟨unreadLeaf, ruled, some ruling.root, unread_spelled,
    verifyCertificates_eq_ok_iff.mpr ⟨time, timed, rootPath, leafPath,
      PublicKeyInfo.signingKey_eq_ok_iff.mpr ⟨elliptic, keyed⟩⟩⟩

theorem unread_token : verifyToken ruling unreadToken.text ⟨0⟩ = .ok Curve.p256.base :=
  verifyToken_eq_ok_iff.mpr ⟨unreadToken, _, CompactToken.parse_written "ES256" unreadEntries [] [],
    CompactToken.readHeader_written "ES256" unreadEntries [] [], unread_verified⟩

/-- **A critical extension that cannot be read is accepted**, on the leaf of a token. -/
theorem unread_accepted : ∃ header,
    verifyToken ruling unreadToken.text ⟨0⟩ = .ok Curve.p256.base ∧
      CompactToken.parse unreadToken.text = .ok unreadToken ∧ unreadToken.readHeader = .ok header ∧
      List.Forall₂ Spells (header.certificates.take 3) [unreadLeaf, ruled, ruling.root] ∧
      ∃ extension ∈ unreadLeaf.certificate.extensions, extension.critical = true ∧
        ∀ reading, ¬ extension.IsInterpreted reading := by
  obtain ⟨extension, carried, critical, kind, unread⟩ := unread_extension
  refine ⟨_, unread_token, CompactToken.parse_written "ES256" unreadEntries [] [],
    CompactToken.readHeader_written "ES256" unreadEntries [] [], unread_spelled, extension, carried,
    critical, ?_⟩
  intro reading interpreted
  have readable := interpreted.read
  rw [kind, reading.constraints, unread] at readable
  cases readable

/-- Whatever is not meant as constraints can be read. -/
def lenient : Extension.Reading where
  readable kind value := kind ≠ Extension.basicConstraints || (BasicConstraints.read? value).isSome
  constraints value := by simp only [ne_eq, not_true_eq_false, decide_false, Bool.false_or]

/-- The same extensions, but with constraints that can be read. -/
def readExtensions : List Extension := [⟨Extension.basicConstraints, true, noAuthority⟩]

/-- The constraints of an authority, after what its key may be used for. -/
def authorityExtensions (use : Bytes) : List Extension :=
  [⟨⟨[0x55, 0x1D, 0x0F]⟩, true, use⟩, ⟨Extension.basicConstraints, true, authority⟩]

/-- What the token is accepted on is known. Its leaf is no better or worse with constraints that can be
read, nor is an authority with a use that can be read. -/
theorem unread_known :
    (∃ token header, CompactToken.parse unreadToken.text = .ok token ∧
      token.readHeader = .ok header ∧
      ∃ vouching : ruling.Vouching header ⟨0⟩ Curve.p256.base, vouching.IsWalked ∧
        ∀ certificate ∈ vouching.certificates, ∀ extension ∈ certificate.extensions,
          extension.critical = true →
            extension.isKnown = true ∧
            (extension.IsInterpreted lenient ↔
              lenient.readable extension.kind extension.value = true) ∧
            (certificate ∈ vouching.issuers → extension.kind = Extension.basicConstraints →
              extension.IsInterpreted lenient)) ∧
    (checkUsable { unreadLeaf.certificate with extensions := readExtensions } time = .ok () ↔
      checkUsable unreadLeaf.certificate time = .ok ()) ∧
    (checkIssuer { ruling.root.certificate with extensions := authorityExtensions [0x03, 0x01, 0x00] }
        time 0 = .ok () ↔
      checkIssuer { ruling.root.certificate with extensions := authorityExtensions [] }
        time 0 = .ok ()) := by
  have resembling :
      List.Forall₂ Extension.Resembles unreadLeaf.certificate.extensions readExtensions := by
    rw [show unreadLeaf.certificate.extensions =
      [⟨Extension.basicConstraints, true, element 0x05 []⟩] by decide +kernel]
    exact .cons ⟨rfl, rfl⟩ .nil
  have matching : List.Forall₂ Extension.Matches (authorityExtensions [])
      (authorityExtensions [0x03, 0x01, 0x00]) :=
    .cons ⟨⟨rfl, rfl⟩, by decide⟩ (.cons ⟨⟨rfl, rfl⟩, fun _ => rfl⟩ .nil)
  have alike : ∀ issuer : Certificate,
      checkIssuer { issuer with extensions := authorityExtensions [0x03, 0x01, 0x00] } time 0 =
          .ok () ↔
        checkIssuer { issuer with extensions := authorityExtensions [] } time 0 = .ok () :=
    fun issuer => (critical_by_kind ruling ⟨0⟩ lenient).2.2
      { issuer with extensions := authorityExtensions [] } _ _ _ matching
  exact ⟨(critical_by_kind ruling ⟨0⟩ lenient).1 _ _ unread_token,
    (critical_by_kind ruling ⟨0⟩ lenient).2.1 _ _ _ resembling, alike _⟩

end Lettered

end SignedPurchase
