import SignedPurchase.Proofs.Json.Reading
import SignedPurchase.Record.Notification

/-
**Members that are absent.**

A record may leave a member out, or have `null` for it. Either way its value is absent, and in no other
way: a value that is there is read, or the record is not read at all.

* `Draft.given?` is what a record gives for a member, by its name in an object and by its place in a
  list;
* `Members.MayLack` says that a record may lack a member, `MayLack.of_read` that what is read of it is
  what is given;
* `Notification.given_tokens`: the tokens that a notification carries.
-/

namespace SignedPurchase

namespace Json

/-! ### What is given -/

/-- Whether a draft that stands in the place of a name spells it. -/
def Draft.spells (name : String) : Draft → Bool
  | .text (some own) => own = name
  | _ => false

/-- A value, of which `null` is none. -/
def Draft.value? : Draft → Option Draft
  | .null => none
  | value => some value

/-- What a record gives for a member: nothing when it is absent or `null`. -/
def Draft.given? (name : String) (place : Nat) : Draft → Option Draft
  | .object members _ =>
    (members.find? fun member => member.1.spells name).bind fun member => member.2.value?
  | .list items _ => items[place]?.bind Draft.value?
  | _ => none

variable {α β σ ρ : Type} {route : Route} {draft : Draft} {name : String} {shape : Shape α}

/-- In an object whose names are texts, the member is found by its name. -/
theorem Draft.given?_spelled {place : Nat} {named : List (String × Draft)} :
    (Draft.object (Draft.spelled named) true).given? name place =
      (named.find? fun member => member.1 = name).bind fun member => member.2.value? := by
  unfold given? spelled
  dsimp only
  rw [List.find?_map, Option.bind_map]
  rfl

/-- An optional value is what is given for it. -/
theorem Shape.rel_of_read_optional {value : Option α}
    (read : shape.optional.read route draft = .ok value) :
    Option.Rel (fun draft value => shape.read route draft = .ok value) draft.value? value := by
  rcases Shape.read_optional_eq_ok_iff.mp read with ⟨rfl, rfl⟩ | ⟨other, present, here, rfl⟩
  · exact .none
  · have given : draft.value? = some draft := by
      cases draft with
      | null => exact absurd rfl other
      | _ => rfl
    rw [given]
    exact .some here

/-- Texts are what is given for them. -/
theorem Shape.eq_map_of_rel_text {given : Option Draft} {value : Option String}
    (related : Option.Rel (fun draft text => Shape.text.read route draft = .ok text) given value) :
    given = value.map fun text => .text (some text) := by
  cases related with
  | none => rfl
  | some read => rw [Shape.read_text_eq_ok_iff.mp read, Option.map_some]

/-! ### Members that a record may lack -/

/-- A record may lack a member: its name and shape, its place, and the value that it has in the finished
record. -/
inductive Members.MayLack (name : String) (shape : Shape α) : {σ ρ : Type} → Members σ ρ →
    (place : Nat) → (value : ρ → Option α) → Prop where
  | here {σ ρ : Type} {rest : Members σ ρ} :
    MayLack name shape (.maybe name shape rest) 0 Prod.fst
  | later {β σ ρ : Type} {own : String} {aliases : List String} {other : Shape β}
    {default : Option β} {hidden : Bool} {rest : Members σ ρ} {place : Nat} {value : ρ → Option α}
    (apart : bears own aliases name = false) (there : MayLack name shape rest place value) :
    MayLack name shape (.cons own aliases other default hidden rest) (place + 1) (value ∘ Prod.snd)

namespace Members.MayLack

variable {members : Members σ ρ} {place : Nat} {value : ρ → Option α} {values : ρ}

/-- What is read of the member in an object is what the object gives. -/
theorem of_gathers (lacks : members.MayLack name shape place value) {named : List (String × Draft)}
    {slots : σ} (gathered : members.Gathers route named slots)
    (completed : members.complete slots = .ok values) :
    Option.Rel (fun draft value => shape.read route draft = .ok value)
      ((named.find? fun member => member.1 = name).bind fun member => member.2.value?)
      (value values) := by
  induction lacks generalizing named with
  | @here σ ρ rest =>
    obtain ⟨slot, slots⟩ := slots
    obtain ⟨first, values⟩ := values
    obtain ⟨held, _⟩ := gathered
    obtain ⟨found, _⟩ := complete_cons_eq_ok_iff.mp completed
    have own : (named.find? fun member => member.1 = name) =
        (named.filter fun member => bears name [] member.1).head? := by
      rw [List.head?_filter]
      simp only [bears, List.contains_nil, Bool.or_false]
    rw [own]
    generalize (named.filter fun member => bears name [] member.1) = borne at held
    cases held with
    | absent =>
      cases found
      exact .none
    | present here =>
      cases found
      exact Shape.rel_of_read_optional here
  | @later β σ ρ own aliases other default hidden rest place value apart there ih =>
    obtain ⟨slot, slots⟩ := slots
    obtain ⟨first, values⟩ := values
    obtain ⟨_, gathered⟩ := gathered
    obtain ⟨_, completed⟩ := complete_cons_eq_ok_iff.mp completed
    have passed : (named.find? fun member => member.1 = name) =
        (named.filter fun member => !bears own aliases member.1).find? fun member =>
          member.1 = name := by
      rw [List.find?_filter]
      congr 1
      funext member
      by_cases here : member.1 = name
      · simp [here, apart]
      · simp [here]
    rw [passed]
    exact ih gathered completed

/-- What is read of the member in a list is what stands in its place. -/
theorem of_fills (lacks : members.MayLack name shape place value) {items : List Draft}
    (filled : members.Fills route items values) :
    Option.Rel (fun draft value => shape.read route draft = .ok value)
      (items[place]?.bind Draft.value?) (value values) := by
  induction lacks generalizing items with
  | @here σ ρ rest =>
    obtain ⟨first, values⟩ := values
    cases items with
    | nil =>
      obtain ⟨absent, _⟩ := filled
      cases absent
      exact .none
    | cons item items =>
      obtain ⟨read, _⟩ := filled
      exact Shape.rel_of_read_optional read
  | @later β σ ρ own aliases other default hidden rest place value apart there ih =>
    obtain ⟨first, values⟩ := values
    cases items with
    | nil =>
      obtain ⟨_, filled⟩ := filled
      exact ih filled
    | cons item items =>
      obtain ⟨_, filled⟩ := filled
      exact ih filled

/-- **What is read of a member that a record may lack is what the record gives for it.** -/
theorem of_read {title : String} (lacks : members.MayLack name shape place value)
    (read : (Shape.record title members).read route draft = .ok values) :
    Option.Rel (fun draft value => shape.read route draft = .ok value) (draft.given? name place)
      (value values) := by
  rcases Shape.read_record_eq_ok_iff.mp read with
    ⟨named, slots, rfl, gathered, completed⟩ | ⟨items, rfl, filled⟩
  · rw [Draft.given?_spelled]
    exact lacks.of_gathers gathered completed
  · exact lacks.of_fills filled

end Members.MayLack

end Json

/-! ### The tokens of a notification -/

open Json

variable {route : Route} {draft : Draft}

/-- The data of a notification are what it gives for them. -/
theorem Notification.rel_data {payload : Notification}
    (read : shape.read route draft = .ok payload) :
    Option.Rel (fun draft data => NotificationData.shape.read route draft = .ok data)
      (draft.given? "data" 5) payload.data := by
  obtain ⟨values, found, rfl⟩ := Shape.read_via_eq_ok_iff.mp read
  have lacks : members.MayLack "data" NotificationData.shape 5 _ :=
    .later (by decide) (.later (by decide) (.later (by decide) (.later (by decide)
      (.later (by decide) .here))))
  exact lacks.of_read found

/-- The token of a transaction is what the data give for it. -/
theorem NotificationData.rel_signedTransactionInfo {data : NotificationData}
    (read : shape.read route draft = .ok data) :
    Option.Rel (fun draft text => Shape.text.read route draft = .ok text)
      (draft.given? "signedTransactionInfo" 4) data.signedTransactionInfo := by
  obtain ⟨values, found, rfl⟩ := Shape.read_via_eq_ok_iff.mp read
  have lacks : members.MayLack "signedTransactionInfo" .text 4 _ :=
    .later (by decide) (.later (by decide) (.later (by decide) (.later (by decide) .here)))
  exact lacks.of_read found

/-- The token of renewal information is what the data give for it. -/
theorem NotificationData.rel_signedRenewalInfo {data : NotificationData}
    (read : shape.read route draft = .ok data) :
    Option.Rel (fun draft text => Shape.text.read route draft = .ok text)
      (draft.given? "signedRenewalInfo" 5) data.signedRenewalInfo := by
  obtain ⟨values, found, rfl⟩ := Shape.read_via_eq_ok_iff.mp read
  have lacks : members.MayLack "signedRenewalInfo" .text 5 _ :=
    .later (by decide) (.later (by decide) (.later (by decide) (.later (by decide)
      (.later (by decide) .here))))
  exact lacks.of_read found

/-- **A notification carries the tokens that it gives**, and lacks those that are absent or `null`, or
whose data are. -/
theorem Notification.given_tokens {payload : Notification}
    (read : shape.read route draft = .ok payload) :
    ((draft.given? "data" 5).bind fun data => data.given? "signedTransactionInfo" 4) =
        (payload.data.bind (·.signedTransactionInfo)).map (fun text => .text (some text)) ∧
      ((draft.given? "data" 5).bind fun data => data.given? "signedRenewalInfo" 5) =
        (payload.data.bind (·.signedRenewalInfo)).map fun text => .text (some text) := by
  have related := rel_data read
  generalize draft.given? "data" 5 = given at related ⊢
  generalize payload.data = data at related ⊢
  cases related with
  | none => exact ⟨rfl, rfl⟩
  | some here =>
    exact ⟨Shape.eq_map_of_rel_text (NotificationData.rel_signedTransactionInfo here),
      Shape.eq_map_of_rel_text (NotificationData.rel_signedRenewalInfo here)⟩

end SignedPurchase
