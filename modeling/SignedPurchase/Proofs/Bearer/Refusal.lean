import SignedPurchase.Proofs.Bearer.Claims
import SignedPurchase.Proofs.Trust.Verdict

/-
**Bearer tokens are read, and never taken for signed payloads.**

A bearer token is a compact token like those of the store, so the same parser reads it. It carries no
certificates, so nothing vouches for its key, and that is found before its algorithm, its signature or
its payload is looked at.

* `TrustAnchor.Refuses` says that a text is refused whatever is tried with it, `refuses_of_verifyToken`
  that a text is, whose certificates do not lead to the anchor;
* `Credential.readHeader_bearerCompact` and `Credential.decode_bearerClaims` read what a bearer token
  was written from;
* `Credential.read_and_refused` is both for every bearer token.
-/

namespace SignedPurchase

open Json

/-! ### Texts that are refused -/

/-- A text is refused with a failure whatever it is opened as, alone, in a list after texts that give
transactions, and as a token that a notification carries. -/
structure TrustAnchor.Refuses (anchor : TrustAnchor) (instant : Instant) (text : String)
    (failure : Failure) : Prop where
  unvouched : verifyToken anchor text instant = .error failure
  unverified : anchor.verifiedPayload text instant = .error failure
  unopened : ∀ {α : Type} (target : Target α), anchor.openTarget target text instant = .error failure
  withRecords : anchor.openNotificationWithRecords text instant = .error failure
  listed : ∀ front back,
    (∀ earlier ∈ front, ∃ record, anchor.openTransaction earlier instant = .ok record) →
    anchor.openTransactions (front ++ text :: back) instant = .error failure
  carriedTransaction : ∀ outer payload, anchor.openNotification outer instant = .ok payload →
    payload.data.bind (·.signedTransactionInfo) = some text →
    anchor.openNotificationWithRecords outer instant = .error failure
  carriedRenewalInfo : ∀ outer payload transaction,
    anchor.openNotification outer instant = .ok payload →
    openMaybe (anchor.openTransaction · instant) (payload.data.bind (·.signedTransactionInfo)) =
      .ok transaction →
    payload.data.bind (·.signedRenewalInfo) = some text →
    anchor.openNotificationWithRecords outer instant = .error failure

namespace TrustAnchor

variable {anchor : TrustAnchor} {instant : Instant} {text : String} {failure : Failure}

/-- What is found of the certificates of a text is found before all else. -/
theorem verdict_of_verifyToken (unvouched : verifyToken anchor text instant = .error failure) :
    anchor.verdict text instant = .error failure := by
  simp only [verifyToken, Outcome.bind_eq_error_iff] at unvouched
  simp only [verdict, Outcome.bind_eq_error_iff]
  rcases unvouched with unparsed | ⟨token, parsed, unread | ⟨header, read, unvouched⟩⟩
  · exact .inl unparsed
  · exact .inr ⟨token, parsed, .inl unread⟩
  · exact .inr ⟨token, parsed, .inr ⟨header, read, .inl unvouched⟩⟩

/-- **A text whose certificates do not lead to the anchor** is refused whatever is tried with it. -/
theorem refuses_of_verifyToken (unvouched : verifyToken anchor text instant = .error failure) :
    anchor.Refuses instant text failure := by
  have verdict := verdict_of_verifyToken unvouched
  have unopened : ∀ {α : Type} (target : Target α),
      anchor.openTarget target text instant = .error failure :=
    fun _ => openTarget_eq_error_iff.mpr (.inl verdict)
  refine ⟨unvouched, ?_, unopened, ?_, ?_, ?_, ?_⟩
  · rw [verifiedPayload_eq_bind, verdict]
    rfl
  · exact openNotificationWithRecords_eq_error_iff.mpr (.inl (unopened (.shaped Notification.shape)))
  · intro front back well
    exact openTransactions_eq_error_iff.mpr
      ⟨front, text, back, rfl, well, unopened (.shaped Transaction.shape)⟩
  · intro outer payload opened carried
    exact openNotificationWithRecords_eq_error_iff.mpr
      (.inr ⟨payload, opened, .inl ⟨text, carried, unopened (.shaped Transaction.shape)⟩⟩)
  · intro outer payload transaction opened well carried
    exact openNotificationWithRecords_eq_error_iff.mpr (.inr ⟨payload, opened,
      .inr ⟨⟨transaction, well⟩, text, carried, unopened (.shaped RenewalInfo.shape)⟩⟩)

/-- A token whose header carries no certificates is refused for that. -/
theorem refuses_of_uncertified {token : CompactToken} {header : Header}
    (parsed : CompactToken.parse text = .ok token) (read : token.readHeader = .ok header)
    (bare : header.certificates = []) : anchor.Refuses instant text (.missingCertificates 0) := by
  have unvouched : verifyHeader anchor header instant = .error (.missingCertificates 0) := by
    rw [verifyHeader, bare]
    rfl
  have refused : (token.readHeader >>= fun header => verifyHeader anchor header instant) =
      .error (.missingCertificates 0) :=
    Outcome.bind_eq_error_iff.mpr (.inr ⟨header, read, unvouched⟩)
  exact refuses_of_verifyToken (Outcome.bind_eq_error_iff.mpr (.inr ⟨token, parsed, refused⟩))

end TrustAnchor

/-! ### What a bearer token is written from -/

namespace Credential

variable {credential : Credential} {now : Int} {chance : Chance}

theorem fits_bearerHeader (credential : Credential) : credential.bearerHeader.Fits 1 := by
  simp only [bearerHeader, Tree.Fits, List.forall_mem_cons, List.not_mem_nil, false_imp_iff,
    implies_true, and_self]

theorem fits_bearerClaims (low : Int64.minValue.toInt ≤ now)
    (high : now + BearerToken.lifetime ≤ Int64.maxValue.toInt) (nonce : String) :
    (credential.bearerClaims now nonce).Fits Tree.greatestDepth := by
  rw [← write_claimsAt low high]
  exact Shape.fits_write BearerClaims.shape BearerClaims.shape_faithful _

/-- The header is read as one that names the algorithm and the key, and carries no certificates. -/
theorem read_bearerHeader (credential : Credential) :
    Header.shape.read .text credential.bearerHeader.toDraft =
      .ok ⟨"ES256", some credential.keyId, []⟩ := by
  have gathered : Header.members.Gathers .text
      [("typ", .text (some "JWT")), ("alg", .text (some "ES256")),
        ("kid", .text (some credential.keyId))]
      (some "ES256", some (some credential.keyId), none, ()) := by
    refine ⟨.present rfl, .present rfl, .absent, ?_⟩
    -- The type is all that is left over, which no member bears.
    intro member left
    obtain rfl : member = ("typ", .text (some "JWT")) := List.mem_singleton.mp left
    rfl
  exact Shape.read_via_eq_ok_iff.mpr ⟨("ES256", some credential.keyId, [], ()),
    Shape.read_record_eq_ok_iff.mpr (.inl ⟨_, _, rfl, gathered, rfl⟩), rfl⟩

/-- **The header of a bearer token is read back.** -/
theorem readHeader_bearerCompact (credential : Credential) (scalar : Nat) (now : Int)
    (chance : Chance) :
    (credential.bearerCompact scalar now chance).readHeader =
      .ok ⟨"ES256", some credential.keyId, []⟩ := by
  have decoded : Header.shape.decode credential.bearerHeader.write =
      .ok ⟨"ES256", some credential.keyId, []⟩ := by
    rw [Shape.decode_eq_ok_iff, Document.read_write credential.fits_bearerHeader]
    exact ⟨credential.read_bearerHeader, rfl⟩
  have header : (credential.bearerCompact scalar now chance).headerBytes? =
      some credential.bearerHeader.write := CompactToken.segmentBytes?_symbols _
  simp only [CompactToken.readHeader, header, decoded]

/-- The payload of a bearer token is decoded to what was written. -/
theorem payloadBytes_bearerCompact (credential : Credential) (scalar : Nat) (now : Int)
    (chance : Chance) :
    (credential.bearerCompact scalar now chance).payloadBytes =
      .ok (credential.bearerClaims now chance.nonce).write := by
  have payload : (credential.bearerCompact scalar now chance).payload =
      Base64.symbols .urlSafe (credential.bearerClaims now chance.nonce).write := rfl
  rw [CompactToken.payloadBytes, payload, CompactToken.segmentBytes?_symbols]

/-- **What a bearer token says is read back**, its members in the order of their names. -/
theorem decode_bearerClaims (low : Int64.minValue.toInt ≤ now)
    (high : now + BearerToken.lifetime ≤ Int64.maxValue.toInt) (nonce : String) :
    Tree.decode (credential.bearerClaims now nonce).write =
      .ok (.object [("aud", .text BearerToken.audience), ("bid", .text credential.bundleId),
        ("exp", .number (.integer (now + BearerToken.lifetime))),
        ("iat", .number (.integer now)), ("iss", .text credential.issuerId),
        ("nonce", .text nonce)]) := by
  rw [Tree.decode_eq_ok_iff, Document.read_write (fits_bearerClaims low high nonce)]
  rfl

/-! ### All of it -/

/-- **Bearer tokens are read, and only as bearer tokens.** A credential whose key can be used makes a
token at any time that is an integer of sixty-four bits with its end. The text of the token is parsed;
its header names the algorithm and the credential's key, and carries no certificates; its payload is the
text of a tree that gives the issuer, the app, the audience, the time and the end of the hour. What is
signed is the text before the last dot. Whatever the anchor and the instant, the token is refused as a
signed payload, because it carries no certificates. -/
theorem read_and_refused (usable : credential.IsUsable) (low : Int64.minValue.toInt ≤ now)
    (high : now + BearerToken.lifetime ≤ Int64.maxValue.toInt) (chance : Chance) :
    ∃ token compact, credential.mint now chance = .ok token ∧
      CompactToken.parse token.text = .ok compact ∧
      compact.readHeader = .ok ⟨"ES256", some credential.keyId, []⟩ ∧
      (∃ payload tree, compact.payloadBytes = .ok payload ∧ Tree.decode payload = .ok tree ∧
        tree.member? "iss" = some (.text credential.issuerId) ∧
        tree.member? "bid" = some (.text credential.bundleId) ∧
        tree.member? "aud" = some (.text "appstoreconnect-v1") ∧
        tree.member? "iat" = some (.number (.integer now)) ∧
        tree.member? "exp" = some (.number (.integer (now + 3600)))) ∧
      token.text = compact.signingInput ++ "." ++ String.ofList compact.signature ∧
      '.' ∉ compact.signature ∧
      ∀ (anchor : TrustAnchor) (instant : Instant),
        anchor.Refuses instant token.text (.missingCertificates 0) := by
  obtain ⟨key, usable⟩ := usable
  have parsed : CompactToken.parse (credential.bearerCompact key.scalar now chance).text =
      .ok (credential.bearerCompact key.scalar now chance) := CompactToken.parse_text_symbols _ _ _
  have read := credential.readHeader_bearerCompact key.scalar now chance
  refine ⟨_, _, mint_eq_ok_iff.mpr ⟨key, usable, rfl⟩, parsed, read, ?_, ?_, ?_, ?_⟩
  · exact ⟨_, _, credential.payloadBytes_bearerCompact key.scalar now chance,
      decode_bearerClaims low high chance.nonce, rfl, rfl, rfl, rfl, rfl⟩
  · exact CompactToken.text_eq_signingInput _
  · exact CompactToken.undotted_symbols _
  · exact fun anchor instant => TrustAnchor.refuses_of_uncertified parsed read rfl

end Credential

/-- The specimen under names that are not written as they are. -/
def Specimen.quoted : Credential :=
  { Specimen.credential with issuerId := "\"\\\n", keyId := "clé", bundleId := "" }

/-- **A token with such names is read and refused.** -/
theorem Specimen.bearer_refused : Specimen.quoted.IsUsable ∧
    Int64.minValue.toInt ≤ 1700000000 ∧
    1700000000 + BearerToken.lifetime ≤ Int64.maxValue.toInt ∧
    ∃ token compact, Specimen.quoted.mint 1700000000 ⟨"nonce", 1⟩ = .ok token ∧
      CompactToken.parse token.text = .ok compact ∧
      compact.readHeader = .ok ⟨"ES256", some "clé", []⟩ ∧
      ∀ (anchor : TrustAnchor) (instant : Instant),
        anchor.openTransaction token.text instant = .error (.missingCertificates 0) := by
  have usable : Specimen.quoted.IsUsable := Specimen.usable
  have low : Int64.minValue.toInt ≤ 1700000000 := by decide
  have high : 1700000000 + BearerToken.lifetime ≤ Int64.maxValue.toInt := by decide
  obtain ⟨token, compact, minted, parsed, read, _, _, _, refused⟩ :=
    Credential.read_and_refused usable low high ⟨"nonce", 1⟩
  exact ⟨usable, low, high, token, compact, minted, parsed, read,
    fun anchor instant => (refused anchor instant).unopened (.shaped Transaction.shape)⟩

end SignedPurchase
