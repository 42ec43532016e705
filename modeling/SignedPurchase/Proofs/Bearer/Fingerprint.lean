import SignedPurchase.Credential
import SignedPurchase.Proofs.Bytes
import SignedPurchase.Proofs.Text.Utf8

/-
**Credentials that are told apart.**

The spelling of a credential can be read in one way only, since the length of each field stands before
it. So two credentials have the same fingerprint only if their spellings have the same digest.

* `Credential.flatMap_measured_inj`: fields after their lengths are told apart;
* `Credential.eq_of_spelling`: a credential is known by its spelling;
* `Credential.fingerprint_eq_iff`: fingerprints are as good as digests.
-/

namespace SignedPurchase

/-! ### Digits -/

namespace Hex

theorem digit_smallDigits_inj {value other : Nat} (small : value < 16) (small' : other < 16)
    (same : digit smallDigits value = digit smallDigits other) : value = other := by
  have each : ∀ value < 16, ∀ other < 16,
      digit smallDigits value = digit smallDigits other → value = other := by decide
  exact each value small other small' same

/-- Bytes are told apart by their digits. -/
theorem encode_inj {bytes others : Bytes} (same : encode bytes = encode others) :
    bytes = others := by
  have digits := String.ofList_injective same
  clear same
  induction bytes generalizing others with
  | nil =>
    cases others with
    | nil => rfl
    | cons other rest => cases digits
  | cons byte rest ih =>
    cases others with
    | nil => cases digits
    | cons other others =>
      rw [List.flatMap_cons, List.flatMap_cons] at digits
      obtain ⟨front, back⟩ := List.append_inj digits rfl
      obtain ⟨high, low⟩ := List.cons.inj front
      have size := byte.toNat_lt
      have size' := other.toNat_lt
      have quotient := digit_smallDigits_inj (by omega) (by omega) high
      have remainder := digit_smallDigits_inj (by omega) (by omega) (List.cons.inj low).1
      have equal : byte = other := UInt8.toNat_inj.mp (by omega)
      rw [equal, ih back]

end Hex

/-! ### Spellings -/

namespace Credential

variable {credential other : Credential}

/-- The length of every field fits into the bytes before it. -/
def IsMeasurable (credential : Credential) : Prop :=
  ∀ field ∈ credential.fields, field.length < 256 ^ 8

instance (credential : Credential) : Decidable credential.IsMeasurable :=
  inferInstanceAs (Decidable (∀ field ∈ credential.fields, field.length < 256 ^ 8))

/-- **Fields after their lengths are told apart.** -/
theorem flatMap_measured_inj {fields others : List Bytes}
    (small : ∀ field ∈ fields, field.length < 256 ^ 8)
    (small' : ∀ field ∈ others, field.length < 256 ^ 8)
    (same : fields.flatMap measured = others.flatMap measured) : fields = others := by
  induction fields generalizing others with
  | nil =>
    cases others with
    | nil => rfl
    | cons other rest => cases same
  | cons field fields ih =>
    cases others with
    | nil => cases same
    | cons other others =>
      rw [List.forall_mem_cons] at small small'
      rw [List.flatMap_cons, List.flatMap_cons, measured, measured, List.append_assoc,
        List.append_assoc] at same
      -- Lengths take eight bytes in any case, and tell where their fields end.
      obtain ⟨lengths, rest⟩ := List.append_inj same (by rw [Bytes.length_ofNat, Bytes.length_ofNat])
      obtain ⟨here, later⟩ := List.append_inj rest (Bytes.ofNat_inj small.1 small'.1 lengths)
      rw [here, ih small.2 small'.2 later]

/-- **A credential is known by its spelling.** -/
theorem eq_of_spelling (small : credential.IsMeasurable) (small' : other.IsMeasurable)
    (same : credential.spelling = other.spelling) : credential = other := by
  have fields := flatMap_measured_inj small small' same
  simp only [Credential.fields, List.cons.injEq, and_true] at fields
  obtain ⟨issuer, key, bundle, private'⟩ := fields
  cases credential
  cases other
  rw [mk.injEq]
  exact ⟨Utf8.encode_inj issuer, Utf8.encode_inj key, Utf8.encode_inj bundle, private'⟩

/-- Fingerprints are as good as digests. -/
theorem fingerprint_eq_iff : credential.fingerprint = other.fingerprint ↔
    Digest.sha256 credential.spelling = Digest.sha256 other.spelling :=
  ⟨Hex.encode_inj, congrArg Hex.encode⟩

end Credential

end SignedPurchase
