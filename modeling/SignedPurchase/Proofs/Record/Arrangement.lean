import SignedPurchase.Proofs.Json.Routes
import SignedPurchase.Proofs.Json.Sites
import SignedPurchase.Proofs.Json.Writing
import SignedPurchase.Record.Notification
import SignedPurchase.Token.Header

/-
**How the members of an object are arranged.**

Two texts give the same record when an object in the one has the members of that in the other, in
another order, with some that nobody knows, or with `null` for some that may be absent. It does not
matter how deep the object stands, nor how either text is spelled. A member that is there twice is
another matter: such a text gives nothing.

* `Site.decode_iff` and `Site.not_decode` carry what is shown of objects over to whole texts;
* `Header.isOptional` and `Notification.field?_version` are the members with ways of their own;
* `arrangement_immaterial` puts this together, `Specimen.data_arranged` are texts of one notification.
-/

namespace SignedPurchase

namespace Json

/-! ### Whole texts -/

section Texts

variable {α σ ρ : Type} {shape : Shape α} {members : Members σ ρ} {place : Draft → Draft}
  {bytes other : Bytes} {object object' : List (Draft × Draft)} {value : α}

/-- A text gives what is read of its value, when nothing follows. -/
theorem Shape.decode_eq_ok_iff_of_read {draft : Draft} (found : Document.read bytes = ⟨draft, true⟩) :
    shape.decode bytes = .ok value ↔ shape.read .text draft = .ok value := by
  rw [Shape.decode_eq_ok_iff, found]
  exact and_iff_left rfl

/-- **Texts with objects of which the same records are read** give the same. -/
theorem Site.decode_iff (site : Site members shape place)
    (found : Document.read bytes = ⟨place (.object object true), true⟩)
    (found' : Document.read other = ⟨place (.object object' true), true⟩)
    (alike : ∀ values, members.Yields .text object values ↔ members.Yields .text object' values) :
    shape.decode bytes = .ok value ↔ shape.decode other = .ok value := by
  rw [Shape.decode_eq_ok_iff_of_read found, Shape.decode_eq_ok_iff_of_read found']
  exact site.read_iff alike

/-- **A text with an object of which no record is read** gives nothing. -/
theorem Site.not_decode (site : Site members shape place)
    (found : Document.read bytes = ⟨place (.object object true), true⟩)
    (none : ∀ values, ¬ members.Yields .text object values) : shape.decode bytes ≠ .ok value := by
  intro decoded
  exact site.not_read none ((Shape.decode_eq_ok_iff_of_read found).mp decoded)

end Texts

end Json

open Json

/-! ### Members with ways of their own -/

/-- Each member of a header may be absent, and `null` stands for its absence. -/
theorem Header.isOptional : ∀ name ∈ ["alg", "kid", "x5c"], members.IsOptional name := by
  simp only [List.forall_mem_cons, List.not_mem_nil, false_imp_iff, implies_true, and_true]
  refine ⟨?_, ?_, ?_⟩
  · exact ⟨_, _, _, 0, rfl, .first, rfl⟩
  · exact ⟨_, _, _, 1, rfl, .next .first, rfl⟩
  · exact ⟨_, _, _, 2, rfl, .next (.next .first), rfl⟩

/-- The version of a notification is one member under two names. -/
theorem Notification.field?_version :
    members.field? "version" = some 3 ∧ members.field? "notificationVersion" = some 3 :=
  ⟨rfl, rfl⟩

/-! ### All of it -/

/-- **How members are arranged does not matter, unless one is there twice.** From a well-formed text the
value is read that it is a text of, and nothing else. Wherever in the values of a shape an object stands
from which a record is read, two texts whose values differ in that object alone give the same: when it
has the same members in another order; when the one has a member more, under a text that is the name of
no member of the record, with any well-formed value; when the one has a `null` more, for a member that
may be absent and for which nothing else is there. A text gives nothing when two members of that object
are for the same one of the record. All members of a header may be absent in that way, and the two names
for the version of a notification are for the same one. -/
theorem arrangement_immaterial :
    (∀ draft bytes, Draft.IsText draft bytes → Document.read bytes = ⟨draft, true⟩) ∧
    (∀ {α σ ρ : Type} {shape : Shape α} {members : Members σ ρ} {place : Draft → Draft},
      Site members shape place →
      (∀ bytes other object object',
        Document.read bytes = ⟨place (.object object true), true⟩ →
        Document.read other = ⟨place (.object object' true), true⟩ → object.Perm object' →
        ∀ value, shape.decode bytes = .ok value ↔ shape.decode other = .ok value) ∧
      (∀ bytes other before after name extra,
        Document.read bytes = ⟨place (.object (before ++ after) true), true⟩ →
        Document.read other =
          ⟨place (.object (before ++ (.text (some name), extra) :: after) true), true⟩ →
        members.field? name = none → extra.isWhole = true →
        ∀ value, shape.decode bytes = .ok value ↔ shape.decode other = .ok value) ∧
      (∀ bytes other before after name,
        Document.read bytes = ⟨place (.object (before ++ after) true), true⟩ →
        Document.read other =
          ⟨place (.object (before ++ (.text (some name), .null) :: after) true), true⟩ →
        members.IsOptional name →
        (∀ another value, (Draft.text (some another), value) ∈ before ++ after →
          members.field? another ≠ members.field? name) →
        ∀ value, shape.decode bytes = .ok value ↔ shape.decode other = .ok value) ∧
      ∀ bytes object name again first second index,
        Document.read bytes = ⟨place (.object object true), true⟩ →
        List.Sublist [(.text (some name), first), (.text (some again), second)] object →
        members.field? name = some index → members.field? again = some index →
        ∀ value, shape.decode bytes ≠ .ok value) ∧
    (∀ name ∈ ["alg", "kid", "x5c"], Header.members.IsOptional name) ∧
    Notification.members.field? "version" = some 3 ∧
    Notification.members.field? "notificationVersion" = some 3 := by
  refine ⟨fun _ _ text => Document.read_of_isText text, ?_, Header.isOptional,
    Notification.field?_version⟩
  intro α σ ρ shape members place site
  refine ⟨?_, ?_, ?_, ?_⟩
  · intro bytes other object object' found found' perm value
    exact site.decode_iff found found' fun values => Members.yields_perm_iff perm
  · intro bytes other before after name extra found found' unknown whole value
    refine site.decode_iff found found' fun values => ?_
    rw [Members.yields_perm_iff List.perm_middle,
      Members.yields_unknown_iff unknown (Draft.isSound_of_isWhole extra whole)]
  · intro bytes other before after name found found' optional alone value
    refine site.decode_iff found found' fun values => ?_
    rw [Members.yields_perm_iff List.perm_middle, Members.yields_absent_iff optional alone]
  · intro bytes object name again first second index found repeated here there value
    refine site.not_decode found fun values yields => ?_
    obtain ⟨rest, perm⟩ := repeated.exists_perm_append
    exact Members.not_yields_of_repeated here there (yields.perm perm)

/-! ### Texts of one notification -/

namespace Specimen

/-- A notification without its data. -/
def around (object : Draft) : Draft :=
  .object ([(.text (some "notificationType"), .text (some "TEST")),
    (.text (some "notificationUUID"), .text (some "1"))] ++ [(.text (some "data"), object)]) true

/-- The text of that notification with those data. -/
def arranged (data : List (String × Tree)) : Bytes :=
  (Tree.object [("notificationType", .text "TEST"), ("notificationUUID", .text "1"),
    ("data", .object data)]).write

/-- The notification with a status and an app. -/
def stated : Notification where
  notificationType := .test
  subtype := none
  notificationUUID := "1"
  version := none
  signedDate := none
  data := some ⟨none, some "app", none, none, none, none, some 1⟩

theorem around_site : Site NotificationData.members Notification.shape around :=
  .via (.member rfl (.next (.next (.next (.next (.next .first))))) (.optional (.via .here)))

theorem arranged_isText (data : List (String × Tree)) (fits : ∀ member ∈ data, member.2.Fits 2) :
    (around (.object (Tree.membersToDraft data) true)).IsText (arranged data) := by
  have whole : (Tree.object [("notificationType", .text "TEST"), ("notificationUUID", .text "1"),
      ("data", .object data)]).Fits 4 := by
    simp only [Tree.Fits, List.forall_mem_cons, List.not_mem_nil, false_imp_iff, implies_true, true_and,
      and_true]
    exact fits
  exact Tree.isText_write whole

/-- **Data are read alike** in another order, with a member that nobody knows, and with `null` for one
that is absent; and they are not read at all with one that is there twice. -/
theorem data_arranged :
    Notification.shape.decode (arranged [("status", .number (.integer 1)), ("bundleId", .text "app")]) =
      .ok stated ∧
    Notification.shape.decode (arranged [("bundleId", .text "app"), ("status", .number (.integer 1))]) =
      .ok stated ∧
    Notification.shape.decode (arranged [("status", .number (.integer 1)), ("appName", .list [.null]),
      ("bundleId", .text "app")]) = .ok stated ∧
    Notification.shape.decode (arranged [("status", .number (.integer 1)), ("environment", .null),
      ("bundleId", .text "app")]) = .ok stated ∧
    ∀ value, Notification.shape.decode (arranged [("status", .number (.integer 1)),
      ("bundleId", .text "app"), ("status", .null)]) ≠ .ok value := by
  obtain ⟨parsed, alike, _⟩ := arrangement_immaterial
  obtain ⟨ordered, unknown, absent, repeated⟩ := alike around_site
  have plain := parsed _ _ (arranged_isText [("status", .number (.integer 1)), ("bundleId", .text "app")]
    (by simp [Tree.Fits]))
  have turned := parsed _ _ (arranged_isText [("bundleId", .text "app"), ("status", .number (.integer 1))]
    (by simp [Tree.Fits]))
  have named := parsed _ _ (arranged_isText [("status", .number (.integer 1)), ("appName", .list [.null]),
    ("bundleId", .text "app")] (by simp [Tree.Fits]))
  have empty := parsed _ _ (arranged_isText [("status", .number (.integer 1)), ("environment", .null),
    ("bundleId", .text "app")] (by simp [Tree.Fits]))
  have twice := parsed _ _ (arranged_isText [("status", .number (.integer 1)), ("bundleId", .text "app"),
    ("status", .null)] (by simp [Tree.Fits]))
  have first : Notification.shape.decode (arranged [("status", .number (.integer 1)),
      ("bundleId", .text "app")]) = .ok stated :=
    (Shape.decode_eq_ok_iff_of_read plain).mpr rfl
  refine ⟨first, ?_, ?_, ?_, ?_⟩
  · exact (ordered _ _ _ _ plain turned (.swap _ _ _) stated).mp first
  · exact (unknown _ _ [_] [_] "appName" (.list [.null] true) plain named rfl rfl stated).mp first
  · refine (absent _ _ [_] [_] "environment" plain empty
      ⟨_, _, _, 3, rfl, .next (.next (.next .first)), rfl⟩ ?_ stated).mp first
    intro another value found
    rcases List.mem_pair.mp found with same | same
    · cases same
      decide
    · cases same
      decide
  · exact repeated _ _ "status" "status" _ _ 6 twice
      (.cons_cons _ (.cons _ (.cons_cons _ .slnil))) rfl rfl

end Specimen

end SignedPurchase
