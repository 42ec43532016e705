import SignedPurchase.Proofs.Json.Reading
import SignedPurchase.Token.Header

/-
**The certificates that a header names.**

* `Header.Offers` is the value under the name of the certificates, in a header that is an object or in
  one that is a list;
* `Header.Lists`: no value and `null` stand for no entries, a list of texts for its items;
* `Header.exists_offers` puts the two together for the headers that are read.
-/

namespace SignedPurchase

open Json

namespace Header

/-- The value that a header has for its certificates, if it has one. -/
inductive Offers : Draft → Option Draft → Prop where
  | absent {members : List (Draft × Draft)}
    (nowhere : ∀ value, (.text (some "x5c"), value) ∉ members) :
    Offers (.object members true) none
  | member {members : List (Draft × Draft)} {value : Draft}
    (there : (.text (some "x5c"), value) ∈ members)
    (only : ∀ other, (.text (some "x5c"), other) ∈ members → other = value) :
    Offers (.object members true) (some value)
  | item {items : List Draft} : Offers (.list items true) items[2]?

/-- The entries that a value stands for. -/
inductive Lists : Option Draft → List String → Prop where
  | absent : Lists none []
  | null : Lists (some .null) []
  | texts {entries : List String} :
    Lists (some (.list (entries.map fun entry => .text (some entry)) true)) entries

variable {route : Route} {draft : Draft} {entries : List String}

theorem lists_of_read
    (read : (Shape.orNull [] (.list .text)).read route draft = .ok entries) :
    Lists (some draft) entries := by
  rcases Shape.read_orNull_eq_ok_iff.mp read with ⟨rfl, rfl⟩ | ⟨_, read⟩
  · exact .null
  · obtain ⟨items, rfl, each⟩ := Shape.read_list_eq_ok_iff.mp read
    simp only [Shape.read_text_eq_ok_iff] at each
    have spelled := List.forall₂_map_right_iff.mpr each
    rw [List.forall₂_eq_eq_eq] at spelled
    exact spelled ▸ .texts

theorem mem_spelled {named : List (String × Draft)} {name : String} {value : Draft} :
    (Draft.text (some name), value) ∈ Draft.spelled named ↔ (name, value) ∈ named := by
  simp [Draft.spelled]

/-- Only the members that do not bear the names of others are asked, which those here never do. -/
theorem filter_entries (named : List (String × Draft)) :
    (((named.filter fun member => !bears "alg" [] member.1).filter fun member =>
      !bears "kid" [] member.1).filter fun member => bears "x5c" [] member.1) =
      named.filter fun member => member.1 = "x5c" := by
  rw [List.filter_filter, List.filter_filter]
  refine List.filter_congr fun member _ => ?_
  by_cases same : member.1 = "x5c"
  · rw [same]
    decide
  · simp [bears, same]

theorem offers_of_holds {named : List (String × Draft)} {slot : Option (List String)}
    (held : Holds ((Shape.orNull [] (.list .text)).read route)
      (named.filter fun member => member.1 = "x5c") slot) :
    ∃ value, Offers (.object (Draft.spelled named) true) value ∧ Lists value (slot.getD []) := by
  have mem : ∀ value, (Draft.text (some "x5c"), value) ∈ Draft.spelled named ↔
      ("x5c", value) ∈ named.filter fun member => member.1 = "x5c" := by
    intro value
    simp only [mem_spelled, List.mem_filter, decide_true, and_true]
  have borne : ∀ member ∈ named.filter fun member => member.1 = "x5c", member.1 = "x5c" :=
    fun member found => of_decide_eq_true (List.mem_filter.mp found).2
  generalize (named.filter fun member => member.1 = "x5c") = own at held mem borne
  cases held with
  | absent =>
    refine ⟨none, .absent fun value there => ?_, .absent⟩
    exact absurd ((mem value).mp there) List.not_mem_nil
  | @present name value entries here =>
    obtain rfl : name = "x5c" := borne (name, value) List.mem_cons_self
    refine ⟨some value, .member ((mem value).mpr List.mem_cons_self) fun other there => ?_,
      lists_of_read here⟩
    cases List.mem_singleton.mp ((mem other).mp there)
    rfl

/-- **The entries of a header that is read** are those that it lists under their name. -/
theorem exists_offers {header : Header} (found : shape.read route draft = .ok header) :
    ∃ value, Offers draft value ∧ Lists value header.certificates := by
  obtain ⟨⟨algorithm, keyId, certificates, _⟩, read, rfl⟩ := Shape.read_via_eq_ok_iff.mp found
  rcases Shape.read_record_eq_ok_iff.mp read with
    ⟨named, ⟨first, second, third, _⟩, rfl, gathered, completed⟩ | ⟨items, rfl, filled⟩
  · have held := gathered.2.2.1
    rw [filter_entries] at held
    -- Every member has a default, so the record is complete whatever is absent.
    have same : certificates = third.getD [] := by
      cases first <;> cases second <;> cases third <;> cases completed <;> rfl
    rw [same]
    exact offers_of_holds held
  · refine ⟨items[2]?, .item, ?_⟩
    match items, filled with
    | [], filled =>
      cases filled.2.2.1
      exact .absent
    | [_], filled =>
      cases filled.2.2.1
      exact .absent
    | [_, _], filled =>
      cases filled.2.2.1
      exact .absent
    | _ :: _ :: third :: _, filled => exact lists_of_read filled.2.2.1

end Header

end SignedPurchase
