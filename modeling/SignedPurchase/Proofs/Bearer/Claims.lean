import SignedPurchase.Json.Shape.Integer
import SignedPurchase.Proofs.Bearer.Keeping
import SignedPurchase.Proofs.Json.Restoring
import SignedPurchase.Proofs.Text.Base64
import SignedPurchase.Proofs.Token.Segments

/-
**What a bearer token says.**

The payload of a bearer token is a record that can be read without the key: who made the token and
when, until when it lasts, for whom it is meant, and for which app.

* `BearerClaims.shape` reads such a record, and `BearerToken.Says` tells what the text of a token says;
* `Credential.says_of_mint`: a token that a credential made says what it was made for, as long as its
  times are integers of sixty-four bits.
-/

namespace SignedPurchase

open Json

/-- What a bearer token says. -/
structure BearerClaims where
  issuerId : String
  issuedAt : Int64
  expiresAt : Int64
  audience : String
  nonce : String
  bundleId : String
  deriving DecidableEq, Repr

namespace BearerClaims

/-- The members in their order. -/
def members :=
  Members.required "iss" .text <|
  Members.required "iat" (.integer .signed64) <|
  Members.required "exp" (.integer .signed64) <|
  Members.required "aud" .text <|
  Members.required "nonce" .text <|
  Members.required "bid" .text .nil

/-- What a bearer token says is a record. -/
def shape : Shape BearerClaims :=
  .via
    ⟨fun ⟨issuerId, issuedAt, expiresAt, audience, nonce, bundleId, _⟩ =>
        ⟨issuerId, issuedAt, expiresAt, audience, nonce, bundleId⟩,
      fun claims => (claims.issuerId, claims.issuedAt, claims.expiresAt, claims.audience,
        claims.nonce, claims.bundleId, ()),
      fun _ => rfl⟩
    (.record "Claims" members)

theorem write_eq (claims : BearerClaims) :
    shape.write claims =
      .object [("iss", .text claims.issuerId), ("iat", .number (.integer claims.issuedAt.toInt)),
        ("exp", .number (.integer claims.expiresAt.toInt)), ("aud", .text claims.audience),
        ("nonce", .text claims.nonce), ("bid", .text claims.bundleId)] := rfl

theorem members_faithful {depth : Nat} : members.Faithful depth := by
  simp [members, Members.required, Members.Faithful, Shape.Faithful]

theorem shape_faithful {depth : Nat} : shape.Faithful (depth + 1) :=
  ⟨by decide, members_faithful⟩

theorem restores (claims : BearerClaims) : shape.Restores claims := by
  have restored : members.Restores (claims.issuerId, claims.issuedAt, claims.expiresAt,
      claims.audience, claims.nonce, claims.bundleId, ()) := by
    simp [members, Members.required, Members.Restores]
  exact Shape.via_restores _
    (Shape.record_restores (members_faithful : members.Faithful 0) (by decide) restored)

/-- Whatever is said survives being written. -/
theorem survives (claims : BearerClaims) : shape.Survives claims :=
  Shape.survives_of_restores
    (Shape.fits_write shape (shape_faithful : shape.Faithful Tree.greatestDepth) claims)
    claims.restores

end BearerClaims

/-- A token says something when its text is a compact token with that as its payload. -/
def BearerToken.Says (token : BearerToken) (claims : BearerClaims) : Prop :=
  ∃ compact payload, CompactToken.parse token.text = .ok compact ∧
    compact.payloadBytes = .ok payload ∧ BearerClaims.shape.decode payload = .ok claims

theorem CompactToken.segmentBytes?_symbols (bytes : Bytes) :
    segmentBytes? (Base64.symbols .urlSafe bytes) = some bytes :=
  Base64.decode?_symbols .urlSafe bytes

namespace Credential

variable {credential : Credential} {token : BearerToken} {now : Int} {chance : Chance}

/-- What a token says that is made at some time. -/
def claimsAt (credential : Credential) (now : Int) (nonce : String) : BearerClaims :=
  ⟨credential.issuerId, .ofInt now, .ofInt (now + BearerToken.lifetime), BearerToken.audience,
    nonce, credential.bundleId⟩

theorem issuedAt_claimsAt (credential : Credential) (low : Int64.minValue.toInt ≤ now)
    (high : now + BearerToken.lifetime ≤ Int64.maxValue.toInt) (nonce : String) :
    (credential.claimsAt now nonce).issuedAt.toInt = now := by
  have later : now < now + BearerToken.lifetime := Int.lt_add_of_pos_right now (by decide)
  exact Int64.toInt_ofInt_of_le low ((later.trans_le high).trans (Int.lt_succ _))

theorem expiresAt_claimsAt (credential : Credential) (low : Int64.minValue.toInt ≤ now)
    (high : now + BearerToken.lifetime ≤ Int64.maxValue.toInt) (nonce : String) :
    (credential.claimsAt now nonce).expiresAt.toInt = now + BearerToken.lifetime := by
  have later : now ≤ now + BearerToken.lifetime := Int.le_add_of_nonneg_right (by decide)
  exact Int64.toInt_ofInt_of_le (low.trans later) (Int.lt_add_one_iff.mpr high)

theorem write_claimsAt (low : Int64.minValue.toInt ≤ now)
    (high : now + BearerToken.lifetime ≤ Int64.maxValue.toInt) (nonce : String) :
    BearerClaims.shape.write (credential.claimsAt now nonce) = credential.bearerClaims now nonce := by
  rw [BearerClaims.write_eq, credential.issuedAt_claimsAt low high,
    credential.expiresAt_claimsAt low high]
  rfl

/-- **A token says what it was made for.** -/
theorem says_of_mint (minted : credential.mint now chance = .ok token)
    (low : Int64.minValue.toInt ≤ now)
    (high : now + BearerToken.lifetime ≤ Int64.maxValue.toInt) :
    token.Says (credential.claimsAt now chance.nonce) := by
  obtain ⟨key, _, rfl⟩ := mint_eq_ok_iff.mp minted
  refine ⟨credential.bearerCompact key.scalar now chance,
    (credential.bearerClaims now chance.nonce).write, ?_, ?_, ?_⟩
  · exact CompactToken.parse_text_symbols _ _ _
  · have payload : (credential.bearerCompact key.scalar now chance).payload =
        Base64.symbols .urlSafe (credential.bearerClaims now chance.nonce).write := rfl
    rw [CompactToken.payloadBytes, payload, CompactToken.segmentBytes?_symbols]
  -- What was signed is what the shape writes, so it is read back.
  · rw [← write_claimsAt low high]
    exact (BearerClaims.survives _).1

end Credential

end SignedPurchase
