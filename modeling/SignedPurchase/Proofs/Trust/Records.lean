import SignedPurchase.Proofs.Json.Routes
import SignedPurchase.Proofs.Trust.Gate

/-
**Records that are told by their members.**

A record of either kind is read from the tree of the payload, a record of a known kind straight from its
text. Both give the same record.

* `TrustAnchor.openWith_of_verified`: all openings of one text read one payload;
* `TrustAnchor.openRecord_eq_transaction_iff` and `TrustAnchor.openRecord_eq_renewalInfo_iff`: how the
  kind of a record is told, and what is then read;
* `TrustAnchor.openings_agree`: the openings of one text agree.
-/

namespace SignedPurchase

open Json

namespace TrustAnchor

variable {α : Type} {anchor : TrustAnchor} {text : String} {instant : Instant} {bytes : Bytes}
  {tree : Tree}

/-- Whatever is asked of a text, it is read from the one payload that was verified. -/
theorem openWith_of_verified {read : Bytes → Except Fault α}
    (verified : anchor.verifiedPayload text instant = .ok bytes) :
    anchor.openWith read text instant = readPayload (read bytes) := by
  rw [openWith, verified]
  rfl

/-- A record of either kind is told from the tree of the payload. -/
theorem openRecord_of_verified (verified : anchor.verifiedPayload text instant = .ok bytes)
    (found : (Document.read bytes).tree? = some tree) :
    anchor.openRecord text instant = SignedRecord.ofTree tree := by
  have decoded : Tree.decode bytes = .ok tree := by
    rw [Tree.decode, found]
  rw [openRecord, openTree, openWith_of_verified verified, decoded]
  rfl

/-- The payload of a text that gives a record has a tree. -/
theorem tree_of_openRecord {record : SignedRecord}
    (opened : anchor.openRecord text instant = .ok record) :
    ∃ bytes tree, anchor.verifiedPayload text instant = .ok bytes ∧
      (Document.read bytes).tree? = some tree ∧ SignedRecord.ofTree tree = .ok record := by
  obtain ⟨tree, shown, told⟩ := Outcome.bind_eq_ok_iff.mp opened
  obtain ⟨bytes, verified, read⟩ := Outcome.bind_eq_ok_iff.mp shown
  have decoded := readPayload_eq_ok_iff.mp read
  rw [Tree.decode] at decoded
  split at decoded
  · rename_i found
    cases decoded
    exact ⟨bytes, tree, verified, found, told⟩
  · cases decoded

/-- A payload of a shape is read straight from its text. -/
theorem openAs_eq_ok_iff_of_verified {shape : Shape α} {value : α}
    (verified : anchor.verifiedPayload text instant = .ok bytes) :
    anchor.openAs shape text instant = .ok value ↔ shape.decode bytes = .ok value := by
  rw [openAs, openWith_of_verified verified, readPayload_eq_ok_iff]

/-- **What tells a transaction**: its identifier. The rest is as for a transaction that is asked
for. -/
theorem openRecord_eq_transaction_iff
    (verified : anchor.verifiedPayload text instant = .ok bytes)
    (found : (Document.read bytes).tree? = some tree)
    (distinct : (Document.read bytes).root.Distinct) {record : Transaction} :
    anchor.openRecord text instant = .ok (.transaction record) ↔
      (tree.member? "transactionId").isSome = true ∧
        anchor.openTransaction text instant = .ok record := by
  rw [openRecord_of_verified verified found, SignedRecord.ofTree_eq_ok_iff, openTransaction,
    openAs_eq_ok_iff_of_verified verified, decode_eq_ok_iff_ofTree found distinct]
  refine ⟨?_, ?_⟩
  · rintro (⟨told, same, identified, read⟩ | ⟨_, other, _⟩)
    · cases same
      exact ⟨identified, read⟩
    · cases other
  · rintro ⟨identified, read⟩
    exact .inl ⟨record, rfl, identified, read⟩

/-- **What tells renewal information**: no identifier of a transaction, but a date or a status of the
renewal. The rest is as for renewal information that is asked for. -/
theorem openRecord_eq_renewalInfo_iff
    (verified : anchor.verifiedPayload text instant = .ok bytes)
    (found : (Document.read bytes).tree? = some tree)
    (distinct : (Document.read bytes).root.Distinct) {record : RenewalInfo} :
    anchor.openRecord text instant = .ok (.renewalInfo record) ↔
      (tree.member? "transactionId").isSome = false ∧
        ((tree.member? "renewalDate").isSome = true ∨
          (tree.member? "autoRenewStatus").isSome = true) ∧
        anchor.openRenewalInfo text instant = .ok record := by
  rw [openRecord_of_verified verified found, SignedRecord.ofTree_eq_ok_iff, openRenewalInfo,
    openAs_eq_ok_iff_of_verified verified, decode_eq_ok_iff_ofTree found distinct]
  refine ⟨?_, ?_⟩
  · rintro (⟨_, other, _⟩ | ⟨told, same, unidentified, renewing, read⟩)
    · cases other
    · cases same
      exact ⟨unidentified, renewing, read⟩
  · rintro ⟨unidentified, renewing, read⟩
    exact .inr ⟨record, rfl, unidentified, renewing, read⟩

/-- A payload that cannot be read is the fault of the payload. -/
theorem undecoded_of_readPayload {read : Except Fault α} {failure : Failure}
    (failed : readPayload read = .error failure) :
    ∃ reason, failure = .undecodedPayload reason := by
  cases read with
  | ok value => cases failed
  | error fault =>
    cases failed
    exact ⟨_, rfl⟩

/-- A tree that is no record is the fault of the payload. -/
theorem undecoded_of_ofTree {failure : Failure}
    (failed : SignedRecord.ofTree tree = .error failure) :
    ∃ reason, failure = .undecodedPayload reason := by
  have mapped : ∀ {γ : Type} {read : Except Fault γ} {told : γ → SignedRecord},
      (readPayload read).map told = .error failure →
        ∃ reason, failure = .undecodedPayload reason := by
    intro γ read told failed
    cases result : readPayload read with
    | ok value =>
      rw [result] at failed
      cases failed
    | error fault =>
      rw [result] at failed
      cases failed
      exact undecoded_of_readPayload result
  unfold SignedRecord.ofTree at failed
  split at failed
  · exact mapped failed
  · split at failed
    · exact mapped failed
    · cases failed
      exact ⟨_, rfl⟩

/-- A record of either kind that was told from a tree is the one that the text gives. -/
theorem ofTree_unique {shape : Shape α} {told asked : α}
    (verified : anchor.verifiedPayload text instant = .ok bytes)
    (found : (Document.read bytes).tree? = some tree) (read : shape.ofTree tree = .ok told)
    (opened : anchor.openAs shape text instant = .ok asked) : told = asked := by
  have again := ofTree_eq_ok_of_decode found ((openAs_eq_ok_iff_of_verified verified).mp opened)
  exact Except.ok.inj (read.symm.trans again)

/-- **The openings of one text agree.** When the payload that was verified has a tree and no object in
it repeats a name, a record of either kind is a transaction exactly when it bears the identifier of one
and is one when asked for, and renewal information exactly when it bears no such identifier, bears a
date or a status of the renewal, and is renewal information when asked for; every other payload is
refused as unreadable. Whatever the payload repeats, two records of one text are never different. -/
theorem openings_agree (anchor : TrustAnchor) (text : String) (instant : Instant) :
    (∀ bytes tree, anchor.verifiedPayload text instant = .ok bytes →
      (Document.read bytes).tree? = some tree → (Document.read bytes).root.Distinct →
        (∀ record, anchor.openRecord text instant = .ok (.transaction record) ↔
          (tree.member? "transactionId").isSome = true ∧
            anchor.openTransaction text instant = .ok record) ∧
        (∀ record, anchor.openRecord text instant = .ok (.renewalInfo record) ↔
          (tree.member? "transactionId").isSome = false ∧
            ((tree.member? "renewalDate").isSome = true ∨
              (tree.member? "autoRenewStatus").isSome = true) ∧
            anchor.openRenewalInfo text instant = .ok record) ∧
        (∀ failure, anchor.openRecord text instant = .error failure →
          ∃ reason, failure = .undecodedPayload reason)) ∧
    (∀ told asked, anchor.openRecord text instant = .ok (.transaction told) →
      anchor.openTransaction text instant = .ok asked → told = asked) ∧
    (∀ told asked, anchor.openRecord text instant = .ok (.renewalInfo told) →
      anchor.openRenewalInfo text instant = .ok asked → told = asked) := by
  refine ⟨?_, ?_, ?_⟩
  · intro bytes tree verified found distinct
    refine ⟨?_, ?_, ?_⟩
    · intro record
      exact openRecord_eq_transaction_iff verified found distinct
    · intro record
      exact openRecord_eq_renewalInfo_iff verified found distinct
    · intro failure failed
      rw [openRecord_of_verified verified found] at failed
      exact undecoded_of_ofTree failed
  · intro told asked opened transaction
    obtain ⟨bytes, tree, verified, found, record⟩ := tree_of_openRecord opened
    rcases SignedRecord.ofTree_eq_ok_iff.mp record with ⟨_, same, _, read⟩ | ⟨_, other, _⟩
    · cases same
      exact ofTree_unique verified found read transaction
    · cases other
  · intro told asked opened renewalInfo
    obtain ⟨bytes, tree, verified, found, record⟩ := tree_of_openRecord opened
    rcases SignedRecord.ofTree_eq_ok_iff.mp record with ⟨_, other, _⟩ | ⟨_, same, _, _, read⟩
    · cases other
    · cases same
      exact ofTree_unique verified found read renewalInfo

end TrustAnchor

end SignedPurchase
