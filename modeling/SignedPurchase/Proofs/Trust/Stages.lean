import SignedPurchase.Proofs.Trust.Gate
import SignedPurchase.Proofs.Trust.Reports
import SignedPurchase.Proofs.Trust.Vouching

/-
**The stages before a payload is shown.**

A payload goes through twenty stages before it is shown. Whether a stage fails is said of the text
alone, so that many stages may fail for one text.

* `Stage.order` lists the stages, `Stage.cause` is the kind of failure that each of them has;
* `TrustAnchor.Fails` says when a stage fails, and how; `TrustAnchor.StopsAt` that no stage fails
  before it;
* the steps of the gate report the failures of their own stages, as in `reports_readHeader` and
  `reports_checkSignature`.
-/

namespace SignedPurchase

open Json

/-- What a payload goes through before it is shown. -/
inductive Stage where
  /-- There are three segments. -/
  | segments
  /-- The header is base64. -/
  | headerText
  /-- The header is a record. -/
  | headerRecord
  /-- There are enough certificates. -/
  | chain
  /-- An entry of the header is base64. -/
  | entryText (index : Fin 3)
  /-- An entry of the header is a certificate. -/
  | entryCertificate (index : Fin 3)
  /-- The time can be told to certificates. -/
  | time
  /-- The root leads to the anchor. -/
  | rootPath
  /-- The leaf leads to the anchor. -/
  | leafPath
  /-- The key of the leaf is one that signs payloads. -/
  | key
  /-- The algorithm is the one in use. -/
  | algorithm
  /-- The signature is base64. -/
  | signatureText
  /-- The signature is a pair of scalars. -/
  | signaturePair
  /-- The signature verifies. -/
  | signature
  /-- The payload is base64. -/
  | payloadText
  /-- The payload can be read. -/
  | payloadRecord
  deriving DecidableEq, Repr

/-- The stages in their order. -/
def Stage.order : List Stage :=
  [.segments, .headerText, .headerRecord, .chain,
    .entryText 0, .entryCertificate 0, .entryText 1, .entryCertificate 1, .entryText 2,
    .entryCertificate 2,
    .time, .rootPath, .leafPath, .key,
    .algorithm, .signatureText, .signaturePair, .signature, .payloadText, .payloadRecord]

/-- The causes that the failure of a stage can have. -/
inductive Cause where
  | token
  | header
  | certificates
  | certificate
  | chain
  | key
  | algorithm
  | signature
  | payload
  deriving DecidableEq, Repr

/-- The cause of a failure, if it comes from a payload. -/
def Failure.cause? : Failure → Option Cause
  | .malformedToken _ => some .token
  | .malformedHeader _ => some .header
  | .missingCertificates _ => some .certificates
  | .unreadableCertificate _ _ => some .certificate
  | .rejectedChain _ => some .chain
  | .unsupportedKey _ => some .key
  | .unsupportedAlgorithm _ => some .algorithm
  | .invalidSignature _ => some .signature
  | .undecodedPayload _ => some .payload
  | _ => none

namespace Stage

/-- The cause that is reported for a stage. -/
def cause : Stage → Cause
  | .segments => .token
  | .headerText | .headerRecord => .header
  | .chain => .certificates
  | .entryText _ | .entryCertificate _ => .certificate
  | .time | .rootPath | .leafPath => .chain
  | .key => .key
  | .algorithm => .algorithm
  | .signatureText | .signaturePair | .signature => .signature
  | .payloadText | .payloadRecord => .payload

/-- One stage comes before another. -/
instance : LT Stage := ⟨fun earlier later => order.idxOf earlier < order.idxOf later⟩

instance (earlier later : Stage) : Decidable (earlier < later) :=
  inferInstanceAs (Decidable (order.idxOf earlier < order.idxOf later))

theorem mem_order (stage : Stage) : stage ∈ order := by
  cases stage with
  | entryText index =>
    revert index
    decide
  | entryCertificate index =>
    revert index
    decide
  | _ => decide

end Stage

/-! ### What a text holds -/

/-- A text has three segments. -/
def HasSegments (text : String) (token : CompactToken) : Prop :=
  text.toList.splitOn '.' = [token.header, token.payload, token.signature]

/-- A text has a header. -/
def HasHeader (text : String) (header : Header) : Prop :=
  ∃ token bytes, HasSegments text token ∧ CompactToken.segmentBytes? token.header = some bytes ∧
    Header.shape.decode bytes = .ok header

/-- A text has a certificate at a place of its header. -/
def HasCertificate (text : String) (index : Nat) (certificate : Presented) : Prop :=
  ∃ header entry, HasHeader text header ∧ header.certificates[index]? = some entry ∧
    Spells entry certificate

section Held

variable {text : String} {token token' : CompactToken} {header header' : Header} {index : Nat}
  {certificate certificate' : Presented}

theorem HasSegments.unique (here : HasSegments text token) (there : HasSegments text token') :
    token = token' := by
  have same := Eq.trans here.symm there
  cases token
  cases token'
  simp only [List.cons.injEq, and_true] at same
  obtain ⟨rfl, rfl, rfl⟩ := same
  rfl

theorem HasHeader.unique (here : HasHeader text header) (there : HasHeader text header') :
    header = header' := by
  obtain ⟨token, bytes, split, spelled, read⟩ := here
  obtain ⟨token', bytes', split', spelled', read'⟩ := there
  obtain rfl := split.unique split'
  obtain rfl := Option.some.inj (spelled.symm.trans spelled')
  exact Except.ok.inj (read.symm.trans read')

theorem HasCertificate.unique (here : HasCertificate text index certificate)
    (there : HasCertificate text index certificate') : certificate = certificate' := by
  obtain ⟨header, entry, held, found, spelled⟩ := here
  obtain ⟨header', entry', held', found', spelled'⟩ := there
  obtain rfl := held.unique held'
  obtain rfl := Option.some.inj (found.symm.trans found')
  exact Presented.eq_of_bytes (Option.some.inj (spelled.symm.trans spelled'))

end Held

/-! ### When a stage fails -/

section Stages

variable {α : Type}

/-- **When a stage fails, and how.** A stage is judged by what it looks at alone; it does not fail
when that is not there. -/
inductive TrustAnchor.Fails (anchor : TrustAnchor) (read : Bytes → Except Fault α) (text : String)
    (instant : Instant) : Stage → Failure → Prop where
  | segments (other : (text.toList.splitOn '.').length ≠ 3) :
    Fails anchor read text instant .segments (.malformedToken (text.toList.splitOn '.').length)
  | headerText {token : CompactToken} (split : HasSegments text token)
    (undecoded : CompactToken.segmentBytes? token.header = none) :
    Fails anchor read text instant .headerText (.malformedHeader "invalid base64url")
  | headerRecord {token : CompactToken} {bytes : Bytes} {fault : Fault}
    (split : HasSegments text token)
    (spelled : CompactToken.segmentBytes? token.header = some bytes)
    (unread : Header.shape.decode bytes = .error fault) :
    Fails anchor read text instant .headerRecord
      (.malformedHeader ("invalid JSON: " ++ fault.message))
  | chain {header : Header} (held : HasHeader text header)
    (few : header.certificates.length < 2) :
    Fails anchor read text instant .chain (.missingCertificates header.certificates.length)
  | entryText {header : Header} {index : Fin 3} {entry : String} (held : HasHeader text header)
    (found : header.certificates[index.val]? = some entry)
    (undecoded : Base64.decode? .standard .required entry.toList = none) :
    Fails anchor read text instant (.entryText index) (.unreadableCertificate index "invalid base64")
  | entryCertificate {header : Header} {index : Fin 3} {entry : String} {bytes : Bytes}
    (held : HasHeader text header) (found : header.certificates[index.val]? = some entry)
    (spelled : Base64.decode? .standard .required entry.toList = some bytes)
    (unread : Certificate.ofBytes? bytes = none) :
    Fails anchor read text instant (.entryCertificate index)
      (.unreadableCertificate index "invalid certificate")
  | time (untimed : CertificateTime.ofSeconds? instant.seconds = none) :
    Fails anchor read text instant .time (.rejectedChain "evaluation time out of range")
  | rootPath {root : Presented} {time : CertificateTime} {fault : PathFault}
    (held : HasCertificate text 2 root)
    (timed : CertificateTime.ofSeconds? instant.seconds = some time)
    (refused : verifyPath root [] anchor.root time = .error fault) :
    Fails anchor read text instant .rootPath (.rejectedChain ("root: " ++ fault.message))
  | leafPath {leaf intermediate : Presented} {time : CertificateTime} {fault : PathFault}
    (held : HasCertificate text 0 leaf) (next : HasCertificate text 1 intermediate)
    (timed : CertificateTime.ofSeconds? instant.seconds = some time)
    (refused : verifyPath leaf [intermediate] anchor.root time = .error fault) :
    Fails anchor read text instant .leafPath (.rejectedChain ("leaf: " ++ fault.message))
  | keyKind {leaf : Presented} (held : HasCertificate text 0 leaf)
    (other : leaf.certificate.publicKey.algorithm.kind ≠ Oid.ellipticKey) :
    Fails anchor read text instant .key
      (.unsupportedKey leaf.certificate.publicKey.algorithm.kind.text)
  | keyCurve {leaf : Presented} (held : HasCertificate text 0 leaf)
    (elliptic : leaf.certificate.publicKey.algorithm.kind = Oid.ellipticKey)
    (outside : pointOfInfo? leaf.certificate.publicKey.raw = none) :
    Fails anchor read text instant .key (.unsupportedKey "EC key outside P-256")
  | algorithm {header : Header} (held : HasHeader text header)
    (other : header.algorithm ≠ "ES256") :
    Fails anchor read text instant .algorithm (.unsupportedAlgorithm header.algorithm)
  | signatureText {token : CompactToken} (split : HasSegments text token)
    (undecoded : CompactToken.segmentBytes? token.signature = none) :
    Fails anchor read text instant .signatureText
      (.invalidSignature "invalid base64url signature")
  | signaturePair {token : CompactToken} {bytes : Bytes} (split : HasSegments text token)
    (spelled : CompactToken.segmentBytes? token.signature = some bytes)
    (unpaired : Es256.pairOf? bytes = none) :
    Fails anchor read text instant .signaturePair
      (.invalidSignature "not a 64-byte ES256 signature")
  | signature {token : CompactToken} {bytes : Bytes} {pair : Ecdsa.Pair} {leaf : Presented}
    {key : Point} (split : HasSegments text token)
    (spelled : CompactToken.segmentBytes? token.signature = some bytes)
    (paired : Es256.pairOf? bytes = some pair) (held : HasCertificate text 0 leaf)
    (keyed : leaf.certificate.publicKey.signingKey = .ok key)
    (wrong : Es256.verifies key token.signingInput pair = false) :
    Fails anchor read text instant .signature
      (.invalidSignature "signature does not match leaf certificate key")
  | payloadText {token : CompactToken} (split : HasSegments text token)
    (undecoded : CompactToken.segmentBytes? token.payload = none) :
    Fails anchor read text instant .payloadText (.undecodedPayload "invalid base64url payload")
  | payloadRecord {token : CompactToken} {bytes : Bytes} {fault : Fault}
    (split : HasSegments text token)
    (spelled : CompactToken.segmentBytes? token.payload = some bytes)
    (unread : read bytes = .error fault) :
    Fails anchor read text instant .payloadRecord (.undecodedPayload fault.message)

/-- A text gets as far as a stage, which fails. -/
def TrustAnchor.StopsAt (anchor : TrustAnchor) (read : Bytes → Except Fault α) (text : String)
    (instant : Instant) (stage : Stage) : Prop :=
  (∃ failure, anchor.Fails read text instant stage failure) ∧
    ∀ earlier < stage, ∀ other, ¬ anchor.Fails read text instant earlier other

/-- The failure of a stage has the cause of the stage. -/
theorem TrustAnchor.Fails.cause {anchor : TrustAnchor} {read : Bytes → Except Fault α}
    {text : String} {instant : Instant} {stage : Stage} {failure : Failure}
    (fails : anchor.Fails read text instant stage failure) :
    failure.cause? = some stage.cause := by
  cases fails <;> rfl

end Stages

/-! ### The steps and their stages -/

section Steps

variable {α : Type} {anchor : TrustAnchor} {read : Bytes → Except Fault α} {text : String}
  {instant : Instant} {token : CompactToken} {header : Header}

theorem reports_parse :
    Reports (anchor.Fails read text instant) [.segments] (CompactToken.parse text) := by
  refine reports_single fun failure => ?_
  rw [CompactToken.parse, CompactToken.segments_eq_splitOn]
  split
  · rename_i three
    refine ⟨?_, ?_⟩
    · intro refused
      cases refused
    · intro fails
      cases fails with
      | segments other => exact absurd (congrArg List.length three) other
  · rename_i other
    refine ⟨?_, ?_⟩
    · intro refused
      cases refused
      refine .segments fun three => ?_
      obtain ⟨first, second, third, split⟩ := List.length_eq_three.mp three
      exact other first second third split
    · intro fails
      cases fails with
      | segments _ => rfl

/-- A header is decoded, then it is read. -/
theorem readHeader_eq_bind : token.readHeader =
    (CompactToken.segmentBytes? token.header).elim
        (.error (.malformedHeader "invalid base64url")) .ok >>= fun bytes =>
      (Header.shape.decode bytes).mapError fun fault =>
        .malformedHeader ("invalid JSON: " ++ fault.message) := by
  rw [CompactToken.readHeader, CompactToken.headerBytes?]
  cases CompactToken.segmentBytes? token.header with
  | none => rfl
  | some bytes =>
    dsimp only [Option.elim_some]
    show _ = Except.mapError _ _
    cases Header.shape.decode bytes with
    | ok header => rfl
    | error fault => rfl

theorem reports_readHeader (split : HasSegments text token) :
    Reports (anchor.Fails read text instant) [.headerText, .headerRecord] token.readHeader := by
  rw [readHeader_eq_bind]
  refine (reports_elim ?_).bind fun bytes found => reports_mapError ?_
  · refine fun failure => ⟨?_, ?_⟩
    · intro fails
      cases fails with
      | headerText other undecoded =>
        obtain rfl := split.unique other
        exact ⟨undecoded, rfl⟩
    · rintro ⟨undecoded, rfl⟩
      exact .headerText split undecoded
  · have spelled := Outcome.elim_eq_ok_iff.mp found
    refine fun failure => ⟨?_, ?_⟩
    · intro fails
      cases fails with
      | headerRecord other spelled' unread =>
        obtain rfl := split.unique other
        obtain rfl := Option.some.inj (spelled.symm.trans spelled')
        exact ⟨_, unread, rfl⟩
    · rintro ⟨fault, unread, rfl⟩
      exact .headerRecord split spelled unread

/-! ### Certificates -/

theorem Presented.ofBytes?_eq_none_iff {bytes : Bytes} :
    Presented.ofBytes? bytes = none ↔ Certificate.ofBytes? bytes = none := by
  unfold Presented.ofBytes?
  split
  · rename_i found
    simp only [found, reduceCtorEq]
  · rename_i unread
    simp only [unread]

/-- An entry is decoded, then the certificate is read. -/
theorem readCertificate_eq_bind {index : Nat} {entry : String} : readCertificate index entry =
    (Base64.decode? .standard .required entry.toList).elim
        (.error (.unreadableCertificate index "invalid base64")) .ok >>= fun bytes =>
      (Presented.ofBytes? bytes).elim
        (.error (.unreadableCertificate index "invalid certificate")) .ok := by
  rw [readCertificate]
  cases Base64.decode? .standard .required entry.toList with
  | none => rfl
  | some bytes =>
    dsimp only [Option.elim_some]
    show _ = Option.elim _ _ _
    cases Presented.ofBytes? bytes with
    | none => rfl
    | some certificate => rfl

theorem reports_readCertificate {index : Fin 3} {entry : String} (held : HasHeader text header)
    (found : header.certificates[index.val]? = some entry) :
    Reports (anchor.Fails read text instant) [.entryText index, .entryCertificate index]
      (readCertificate index entry) := by
  rw [readCertificate_eq_bind]
  refine (reports_elim ?_).bind fun bytes decoded => reports_elim ?_
  · refine fun failure => ⟨?_, ?_⟩
    · intro fails
      cases fails with
      | entryText other found' undecoded =>
        obtain rfl := held.unique other
        obtain rfl := Option.some.inj (found.symm.trans found')
        exact ⟨undecoded, rfl⟩
    · rintro ⟨undecoded, rfl⟩
      exact .entryText held found undecoded
  · have spelled := Outcome.elim_eq_ok_iff.mp decoded
    refine fun failure => ⟨?_, ?_⟩
    · intro fails
      cases fails with
      | entryCertificate other found' spelled' unread =>
        obtain rfl := held.unique other
        obtain rfl := Option.some.inj (found.symm.trans found')
        obtain rfl := Option.some.inj (spelled.symm.trans spelled')
        exact ⟨Presented.ofBytes?_eq_none_iff.mpr unread, rfl⟩
    · rintro ⟨unread, rfl⟩
      exact .entryCertificate held found spelled (Presented.ofBytes?_eq_none_iff.mp unread)

/-- Nothing fails at a place of the header without an entry. -/
theorem reports_noEntry {index : Fin 3} (held : HasHeader text header)
    (missing : header.certificates[index.val]? = none) (certificates : List Presented) :
    Reports (anchor.Fails read text instant) [.entryText index, .entryCertificate index]
      (.ok certificates) := by
  refine reports_ok ?_
  simp only [List.mem_cons, List.not_mem_nil, or_false]
  rintro stage (rfl | rfl) failure fails
  · cases fails with
    | entryText other found _ =>
      obtain rfl := held.unique other
      cases missing.symm.trans found
  · cases fails with
    | entryCertificate other found _ _ =>
      obtain rfl := held.unique other
      cases missing.symm.trans found

theorem reports_checkTime :
    Reports (anchor.Fails read text instant) [.time] (checkTime instant) := by
  have step : checkTime instant = ((CertificateTime.ofSeconds? instant.seconds).elim
      (.error (.rejectedChain "evaluation time out of range")) .ok : Outcome CertificateTime) := by
    unfold checkTime
    cases CertificateTime.ofSeconds? instant.seconds with
    | none => rfl
    | some time => rfl
  rw [step]
  refine reports_elim fun failure => ⟨?_, ?_⟩
  · intro fails
    cases fails with
    | time untimed => exact ⟨untimed, rfl⟩
  · rintro ⟨untimed, rfl⟩
    exact .time untimed

theorem requirePath_eq_mapError {part : String} {start : Presented}
    {intermediates : List Presented} {time : CertificateTime} :
    requirePath part start intermediates anchor time =
      (verifyPath start intermediates anchor.root time).mapError fun fault =>
        .rejectedChain (part ++ ": " ++ fault.message) := by
  rw [requirePath]
  cases verifyPath start intermediates anchor.root time with
  | ok done => rfl
  | error fault => rfl

theorem reports_requireRoot {root : Option Presented} {time : CertificateTime}
    (carried : ∀ other, HasCertificate text 2 other ↔ root = some other)
    (timed : CertificateTime.ofSeconds? instant.seconds = some time) :
    Reports (anchor.Fails read text instant) [.rootPath] (requireRoot root anchor time) := by
  cases root with
  -- A root that is not carried cannot fail.
  | none =>
    refine reports_ok ?_
    simp only [List.mem_singleton]
    rintro stage rfl failure fails
    cases fails with
    | rootPath held _ _ => cases (carried _).mp held
  | some root =>
    rw [requireRoot, requirePath_eq_mapError]
    refine reports_mapError fun failure => ⟨?_, ?_⟩
    · intro fails
      cases fails with
      | rootPath held timed' refused =>
        obtain rfl := Option.some.inj ((carried _).mp held)
        obtain rfl := Option.some.inj (timed.symm.trans timed')
        exact ⟨_, refused, rfl⟩
    · rintro ⟨fault, refused, rfl⟩
      exact .rootPath ((carried _).mpr rfl) timed refused

theorem reports_leafPath {leaf intermediate : Presented} {time : CertificateTime}
    (held : HasCertificate text 0 leaf) (next : HasCertificate text 1 intermediate)
    (timed : CertificateTime.ofSeconds? instant.seconds = some time) :
    Reports (anchor.Fails read text instant) [.leafPath]
      (requirePath "leaf" leaf [intermediate] anchor time) := by
  rw [requirePath_eq_mapError]
  refine reports_mapError fun failure => ⟨?_, ?_⟩
  · intro fails
    cases fails with
    | leafPath held' next' timed' refused =>
      obtain rfl := held.unique held'
      obtain rfl := next.unique next'
      obtain rfl := Option.some.inj (timed.symm.trans timed')
      exact ⟨_, refused, rfl⟩
  · rintro ⟨fault, refused, rfl⟩
    exact .leafPath held next timed refused

theorem reports_signingKey {leaf : Presented} (held : HasCertificate text 0 leaf) :
    Reports (anchor.Fails read text instant) [.key] leaf.certificate.publicKey.signingKey := by
  refine reports_single fun failure => ?_
  rw [PublicKeyInfo.signingKey]
  split
  · rename_i other
    refine ⟨?_, ?_⟩
    · intro refused
      cases refused
      exact .keyKind held other
    · intro fails
      cases fails with
      | keyKind held' _ =>
        obtain rfl := held.unique held'
        rfl
      | keyCurve held' elliptic _ =>
        obtain rfl := held.unique held'
        exact absurd elliptic other
  · rename_i elliptic
    have elliptic := not_not.mp elliptic
    split
    · rename_i key inside
      refine ⟨?_, ?_⟩
      · intro refused
        cases refused
      · intro fails
        cases fails with
        | keyKind held' other =>
          obtain rfl := held.unique held'
          exact absurd elliptic other
        | keyCurve held' _ outside =>
          obtain rfl := held.unique held'
          cases inside.symm.trans outside
    · rename_i outside
      refine ⟨?_, ?_⟩
      · intro refused
        cases refused
        exact .keyCurve held elliptic outside
      · intro fails
        cases fails with
        | keyKind held' other =>
          obtain rfl := held.unique held'
          exact absurd elliptic other
        | keyCurve _ _ _ => rfl

theorem reports_verifyCertificates {leaf intermediate : Presented} {root : Option Presented}
    (held : HasCertificate text 0 leaf) (next : HasCertificate text 1 intermediate)
    (carried : ∀ other, HasCertificate text 2 other ↔ root = some other) :
    Reports (anchor.Fails read text instant) [.time, .rootPath, .leafPath, .key]
      (verifyCertificates anchor leaf intermediate root instant) := by
  refine reports_checkTime.bind fun time found => ?_
  have timed := checkTime_eq_ok_iff.mp found
  refine (reports_requireRoot carried timed).bind fun _ _ => ?_
  exact (reports_leafPath held next timed).bind fun _ _ => reports_signingKey held

/-! ### The signature and the payload -/

theorem reports_checkAlgorithm (held : HasHeader text header) :
    Reports (anchor.Fails read text instant) [.algorithm] header.checkAlgorithm := by
  refine reports_require fun failure => ⟨?_, ?_⟩
  · intro fails
    cases fails with
    | algorithm held' other =>
      obtain rfl := held.unique held'
      exact ⟨other, rfl⟩
  · rintro ⟨other, rfl⟩
    exact .algorithm held other

/-- A signature is decoded, taken for a pair of scalars, and verified. -/
theorem checkSignature_eq_bind {key : Point} : token.checkSignature key =
    (CompactToken.segmentBytes? token.signature).elim
        (.error (.invalidSignature "invalid base64url signature")) .ok >>= fun bytes =>
      (Es256.pairOf? bytes).elim
          (.error (.invalidSignature "not a 64-byte ES256 signature")) .ok >>= fun pair =>
        if Es256.verifies key token.signingInput pair then .ok ()
        else .error (.invalidSignature "signature does not match leaf certificate key") := by
  rw [CompactToken.checkSignature, CompactToken.signatureBytes]
  cases CompactToken.segmentBytes? token.signature with
  | none => rfl
  | some bytes =>
    show Except.bind (.ok bytes) _ = Except.bind (.ok bytes) _
    dsimp only [Except.bind]
    cases Es256.pairOf? bytes with
    | none => rfl
    | some pair => rfl

theorem reports_checkSignature {leaf : Presented} {key : Point} (split : HasSegments text token)
    (held : HasCertificate text 0 leaf)
    (keyed : leaf.certificate.publicKey.signingKey = .ok key) :
    Reports (anchor.Fails read text instant) [.signatureText, .signaturePair, .signature]
      (token.checkSignature key) := by
  rw [checkSignature_eq_bind]
  refine (reports_elim ?_).bind fun bytes decoded => ?_
  · refine fun failure => ⟨?_, ?_⟩
    · intro fails
      cases fails with
      | signatureText split' undecoded =>
        obtain rfl := split.unique split'
        exact ⟨undecoded, rfl⟩
    · rintro ⟨undecoded, rfl⟩
      exact .signatureText split undecoded
  have spelled := Outcome.elim_eq_ok_iff.mp decoded
  refine (reports_elim ?_).bind fun pair found => reports_require ?_
  · refine fun failure => ⟨?_, ?_⟩
    · intro fails
      cases fails with
      | signaturePair split' spelled' unpaired =>
        obtain rfl := split.unique split'
        obtain rfl := Option.some.inj (spelled.symm.trans spelled')
        exact ⟨unpaired, rfl⟩
    · rintro ⟨unpaired, rfl⟩
      exact .signaturePair split spelled unpaired
  · have paired := Outcome.elim_eq_ok_iff.mp found
    refine fun failure => ⟨?_, ?_⟩
    · intro fails
      cases fails with
      | signature split' spelled' paired' held' keyed' wrong =>
        obtain rfl := split.unique split'
        obtain rfl := Option.some.inj (spelled.symm.trans spelled')
        obtain rfl := Option.some.inj (paired.symm.trans paired')
        obtain rfl := held.unique held'
        obtain rfl := Except.ok.inj (keyed.symm.trans keyed')
        exact ⟨Bool.eq_false_iff.mp wrong, rfl⟩
    · rintro ⟨wrong, rfl⟩
      exact .signature split spelled paired held keyed (Bool.eq_false_iff.mpr wrong)

theorem reports_payloadBytes (split : HasSegments text token) :
    Reports (anchor.Fails read text instant) [.payloadText] token.payloadBytes := by
  have step : token.payloadBytes = (CompactToken.segmentBytes? token.payload).elim
      (.error (.undecodedPayload "invalid base64url payload")) .ok := by
    rw [CompactToken.payloadBytes]
    cases CompactToken.segmentBytes? token.payload with
    | none => rfl
    | some bytes => rfl
  rw [step]
  refine reports_elim fun failure => ⟨?_, ?_⟩
  · intro fails
    cases fails with
    | payloadText split' undecoded =>
      obtain rfl := split.unique split'
      exact ⟨undecoded, rfl⟩
  · rintro ⟨undecoded, rfl⟩
    exact .payloadText split undecoded

theorem reports_readPayload {bytes : Bytes} (split : HasSegments text token)
    (spelled : CompactToken.segmentBytes? token.payload = some bytes) :
    Reports (anchor.Fails read text instant) [.payloadRecord] (readPayload (read bytes)) := by
  have step : readPayload (read bytes) =
      (read bytes).mapError fun fault => .undecodedPayload fault.message := by
    cases read bytes with
    | ok value => rfl
    | error fault => rfl
  rw [step]
  refine reports_mapError fun failure => ⟨?_, ?_⟩
  · intro fails
    cases fails with
    | payloadRecord split' spelled' unread =>
      obtain rfl := split.unique split'
      obtain rfl := Option.some.inj (spelled.symm.trans spelled')
      exact ⟨_, unread, rfl⟩
  · rintro ⟨fault, unread, rfl⟩
    exact .payloadRecord split spelled unread

end Steps

end SignedPurchase
