import SignedPurchase.Der.Oid
import SignedPurchase.Text.Hex
import SignedPurchase.Text.Utf8

/-
**Names of subjects and issuers.**

A name is a sequence of sets of attributes. Two names are the same when their bytes are, so a name
keeps the bytes that were read.

* `Name.read?` reads a name; a set that cannot be read ends it;
* `Name.text` shows a name as `CN=…, O=…`, with ` + ` between the attributes of one set.
-/

namespace SignedPurchase

/-- One statement of a name. -/
structure Attribute where
  kind : Oid
  /-- The tag number of the value. -/
  tag : Nat
  value : Bytes
  deriving DecidableEq, Repr

/-- The name of a subject or an issuer. -/
structure Name where
  sets : List (List Attribute)
  /-- The bytes that were read. -/
  raw : Bytes
  deriving DecidableEq, Repr

/-! ### Reading -/

/-- The attribute at the front. What follows its value is passed over. -/
def Attribute.read? (bytes : Bytes) : Option (Attribute × Bytes) :=
  match Der.content? Der.sequence bytes with
  | none => none
  | some (content, rest) =>
    match Oid.read? content with
    | none => none
    | some (kind, content) =>
      match Der.element? content with
      | none => none
      | some (element, _) => some (⟨kind, element.tag.number, element.content⟩, rest)

/-- The attributes at the front, at most so many. -/
def Attribute.readMany : Nat → Bytes → List Attribute
  | 0, _ => []
  | limit + 1, bytes =>
    match Attribute.read? bytes with
    | some (entry, rest) => entry :: readMany limit rest
    | none => []

/-- The set of attributes at the front, which holds at least one. -/
def Attribute.readSet? (bytes : Bytes) : Option (List Attribute × Bytes) :=
  match Der.content? Der.set bytes with
  | none => none
  | some (content, rest) =>
    match Attribute.readMany content.length content with
    | [] => none
    | entries => some (entries, rest)

/-- The sets at the front, at most so many, and what follows them. -/
def Attribute.readSets : Nat → Bytes → List (List Attribute) × Bytes
  | 0, bytes => ([], bytes)
  | limit + 1, bytes =>
    match Attribute.readSet? bytes with
    | some (entries, rest) =>
      let (others, rest) := readSets limit rest
      (entries :: others, rest)
    | none => ([], bytes)

/-- The name at the front. Its bytes end where its sets end. -/
def Name.read? (bytes : Bytes) : Option (Name × Bytes) :=
  match Der.content? Der.sequence bytes with
  | none => none
  | some (content, rest) =>
    let (sets, left) := Attribute.readSets content.length content
    some (⟨sets, Der.consumed bytes (left ++ rest)⟩, rest)

/-! ### Showing -/

/-- The short names of attribute kinds. -/
def Attribute.shortNames : List (Bytes × String) := [
  ([0x55, 0x04, 0x03], "CN"), ([0x55, 0x04, 0x04], "surname"),
  ([0x55, 0x04, 0x05], "serialNumber"), ([0x55, 0x04, 0x06], "C"), ([0x55, 0x04, 0x07], "L"),
  ([0x55, 0x04, 0x08], "ST"), ([0x55, 0x04, 0x09], "streetAddress"), ([0x55, 0x04, 0x0A], "O"),
  ([0x55, 0x04, 0x0B], "OU"), ([0x55, 0x04, 0x0C], "title"), ([0x55, 0x04, 0x11], "postalCode"),
  ([0x55, 0x04, 0x29], "name"), ([0x55, 0x04, 0x2A], "givenName"),
  ([0x55, 0x04, 0x2B], "initials"), ([0x55, 0x04, 0x2C], "generationQualifier"),
  ([0x55, 0x04, 0x2E], "dnQualifier"),
  ([0x09, 0x92, 0x26, 0x89, 0x93, 0xF2, 0x2C, 0x64, 0x01, 0x19], "DC"),
  ([0x09, 0x92, 0x26, 0x89, 0x93, 0xF2, 0x2C, 0x64, 0x01, 0x01], "uid"),
  ([0x2A, 0x86, 0x48, 0x86, 0xF7, 0x0D, 0x01, 0x09, 0x01], "Email")]

/-- The short name of an attribute kind, or its numbers. -/
def Attribute.kindText (entry : Attribute) : String :=
  match shortNames.lookup entry.kind.bytes with
  | some name => name
  | none => "OID(" ++ entry.kind.text ++ ")"

/-- The tag numbers of texts in bytes. -/
def Attribute.textTags : List Nat := [7, 12, 18, 19, 20, 21, 22, 25, 26, 27]

/-- The tag number of texts in units of sixteen bits. -/
def Attribute.unitsTag : Nat := 30

/-- The units of sixteen bits. A single byte at the end is a unit of its own. -/
def Attribute.units : Bytes → List Nat
  | [] => []
  | [last] => [last.toNat]
  | high :: low :: rest => (high.toNat * 256 + low.toNat) :: units rest

/-- The characters of units, when every unit of a pair stands beside the other. -/
def Attribute.characters? : List Nat → Option (List Char)
  | [] => some []
  | unit :: rest =>
    if 0xD800 ≤ unit && unit ≤ 0xDBFF then
      match rest with
      | second :: rest =>
        if 0xDC00 ≤ second && second ≤ 0xDFFF then
          (characters? rest).map
            (Char.ofNat ((unit - 0xD800) * 0x400 + (second - 0xDC00) + 0x10000) :: ·)
        else none
      | [] => none
    else if 0xDC00 ≤ unit && unit ≤ 0xDFFF then none
    else (characters? rest).map (Char.ofNat unit :: ·)

/-- The value of an attribute: a text as it is, anything else in hexadecimal digits. -/
def Attribute.valueText? (entry : Attribute) : Option String :=
  if textTags.contains entry.tag then Utf8.decode? entry.value
  else if entry.tag = unitsTag then (characters? (units entry.value)).map String.ofList
  else some (Hex.encodeCapital entry.value)

/-- An attribute with its kind. -/
def Attribute.text? (entry : Attribute) : Option String :=
  match entry.valueText? with
  | some value => some (entry.kindText ++ "=" ++ value)
  | none => none

/-- The texts of all, or nothing when one has none. -/
def Attribute.texts? : List Attribute → Option (List String)
  | [] => some []
  | entry :: rest =>
    match entry.text?, texts? rest with
    | some text, some texts => some (text :: texts)
    | _, _ => none

/-- The texts of the sets of a name. -/
def Name.setTexts? : List (List Attribute) → Option (List String)
  | [] => some []
  | entries :: rest =>
    match Attribute.texts? entries, setTexts? rest with
    | some texts, some others => some (String.intercalate " + " texts :: others)
    | _, _ => none

/-- A name as text. A text that is no text spoils the whole name. -/
def Name.text (name : Name) : String :=
  match Name.setTexts? name.sets with
  | some texts => String.intercalate ", " texts
  | none => "<X509Error: Invalid X.509 name>"

end SignedPurchase
