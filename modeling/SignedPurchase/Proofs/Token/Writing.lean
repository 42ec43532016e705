import SignedPurchase.Proofs.Json.Restoring
import SignedPurchase.Proofs.Text.Base64
import SignedPurchase.Proofs.Token.Segments
import SignedPurchase.Token.Header

/-
**Tokens that are written.**

The store writes its tokens as any signer would: a header in base64, a payload, a signature. What is
written so is read back, whatever algorithm the header names and whatever certificates it carries.

* `CompactToken.written` is the token of a header, a payload and a signature;
* `CompactToken.parse_written` and `CompactToken.readHeader_written` read its text and its header.
-/

namespace SignedPurchase

open Json

namespace CompactToken

/-- The tree of a header that names an algorithm and carries certificates. -/
def headerTree (algorithm : String) (certificates : List String) : Tree :=
  .object [("alg", .text algorithm), ("x5c", .list (certificates.map .text))]

/-- The token of a header, a payload and a signature. -/
def written (algorithm : String) (certificates : List String) (payload signature : Bytes) :
    CompactToken :=
  ⟨Base64.symbols .urlSafe (headerTree algorithm certificates).write,
    Base64.symbols .urlSafe payload, Base64.symbols .urlSafe signature⟩

variable (algorithm : String) (certificates : List String) (payload signature : Bytes)

theorem parse_written :
    parse (written algorithm certificates payload signature).text =
      .ok (written algorithm certificates payload signature) :=
  parse_text_symbols _ payload signature

theorem fits_headerTree : (headerTree algorithm certificates).Fits 3 := by
  simp only [headerTree, Tree.Fits, List.forall_mem_cons, List.forall_mem_map, implies_true,
    List.not_mem_nil, false_imp_iff, and_self]

/-- The tree is read as the header. -/
theorem read_headerTree :
    Header.shape.read .text (headerTree algorithm certificates).toDraft =
      .ok ⟨algorithm, none, certificates⟩ := by
  have each : List.Forall₂ (fun item entry => Shape.text.read .text item = .ok entry)
      (Tree.itemsToDraft (certificates.map .text)) certificates := by
    rw [Tree.itemsToDraft_eq, List.forall₂_map_left_iff, List.forall₂_map_left_iff]
    exact List.forall₂_same.mpr fun entry _ => rfl
  have listed : (Shape.orNull [] (.list .text)).read .text
      (.list (Tree.itemsToDraft (certificates.map .text)) true) = .ok certificates :=
    Shape.read_orNull_eq_ok_iff.mpr (.inr ⟨nofun, Shape.read_list_eq_ok_iff.mpr ⟨_, rfl, each⟩⟩)
  have gathered : Header.members.Gathers .text
      [("alg", .text (some algorithm)),
        ("x5c", .list (Tree.itemsToDraft (certificates.map .text)) true)]
      (some algorithm, none, some certificates, ()) :=
    ⟨.present rfl, .absent, .present listed, nofun⟩
  exact Shape.read_via_eq_ok_iff.mpr ⟨(algorithm, none, certificates, ()),
    Shape.read_record_eq_ok_iff.mpr (.inl ⟨_, _, rfl, gathered, rfl⟩), rfl⟩

/-- **A header that is written is read back.** -/
theorem readHeader_written :
    (written algorithm certificates payload signature).readHeader =
      .ok ⟨algorithm, none, certificates⟩ := by
  have decoded : Header.shape.decode (headerTree algorithm certificates).write =
      .ok ⟨algorithm, none, certificates⟩ := by
    rw [Shape.decode_eq_ok_iff, Document.read_write (fits_headerTree algorithm certificates)]
    exact ⟨read_headerTree algorithm certificates, rfl⟩
  simp only [readHeader, headerBytes?, segmentBytes?, written, Base64.decode?_symbols, decoded]

end CompactToken

end SignedPurchase
