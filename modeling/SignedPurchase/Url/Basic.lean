import SignedPurchase.Text.Count
import SignedPurchase.Url.Escape

/-
**Addresses of the web.**

An address is read leniently: blanks around it and line ends within it are dropped, a backslash is as
good as a slash, steps within the path are taken, and characters that cannot stand in an address are
escaped. What follows a number sign is never sent.

* `Url.ofText?` reads an address of one of the two schemes of the web;
* `Url.resolve` takes the steps within a path: a segment of one dot stays, one of two dots goes up;
* `Url.withField` appends a field to the query;
* `Url.target` is what a request names: the path and the query.

The name of a server is in ASCII, or an address in brackets.
-/

namespace SignedPurchase

/-- An address of the web, as far as it is sent. -/
structure Url where
  /-- Whether the connection is encrypted. -/
  secure : Bool
  /-- The name of the server, in small letters. -/
  server : List Char
  /-- The number of the door at which the server listens, unless it is the usual one. -/
  door : Option Nat
  /-- The segments of the path, escaped. -/
  segments : List (List Char)
  /-- What follows the question mark, escaped. -/
  query : Option (List Char)
  deriving DecidableEq, Repr

namespace Url

/-! ### Cleaning and splitting -/

/-- Whether a character is dropped at both ends: a control or a space. -/
def isBlank (char : Char) : Bool := char ≤ ' '

/-- Whether a character is dropped everywhere. -/
def isBreak (char : Char) : Bool :=
  char == '\t' || char == '\n' || char == '\r'

/-- A text without blanks around it and breaks within it. -/
def clean (text : List Char) : List Char :=
  let front := text.dropWhile isBlank
  (front.reverse.dropWhile isBlank).reverse.filter fun char => !isBreak char

/-- Whether a character separates segments. -/
def isSlash (char : Char) : Bool :=
  char == '/' || char == '\\'

/-- Whether a character ends the path. -/
def endsPath (char : Char) : Bool :=
  char == '?' || char == '#'

/-- Whether an address is encrypted, and what follows its scheme. No other scheme is requested. -/
def scheme? (text : List Char) : Option (Bool × List Char) :=
  let name := (text.takeWhile (· != ':')).map Char.toLower
  match text.dropWhile (· != ':') with
  | [] => none
  | _ :: rest =>
    if name = "http".toList then some (false, rest)
    else if name = "https".toList then some (true, rest)
    else none

/-- What follows the last of a kind of character, or all when there is none. -/
def afterLast (mark : Char) (text : List Char) : List Char :=
  (text.reverse.takeWhile (· != mark)).reverse

/-- A server in brackets and what follows it, or a server and what follows it from a colon on. -/
def splitServer (text : List Char) : List Char × List Char :=
  match text with
  | '[' :: _ =>
    let inside := text.takeWhile (· != ']')
    (inside ++ (text.drop inside.length).take 1, (text.drop inside.length).drop 1)
  | _ => (text.takeWhile (· != ':'), text.dropWhile (· != ':'))

/-- Whether a character can stand in the name of a server. -/
def isServerChar (char : Char) : Bool :=
  Escape.isGraphic char && !"#%/:<>?@[\\]^|".toList.contains char

/-- Whether a text in brackets can be the address of a server. -/
def isBracketed (text : List Char) : Bool :=
  text.getLast? == some ']' &&
    ((text.drop 1).dropLast.all fun char =>
      char == ':' || char == '.' || ('0' ≤ char && char ≤ '9') ||
        ('a' ≤ char.toLower && char.toLower ≤ 'f'))

/-- Whether a text can name a server. -/
def isServer (text : List Char) : Bool :=
  match text with
  | [] => false
  | '[' :: _ => isBracketed text
  | _ => text.all isServerChar

/-- The door that is meant when none is named. -/
def usualDoor (secure : Bool) : Nat :=
  if secure then 443 else 80

/-- The door after a colon. The usual one need not be named, and is not kept. -/
def door? (secure : Bool) (text : List Char) : Option (Option Nat) :=
  match text with
  | [] => some none
  | [':'] => some none
  | ':' :: digits =>
    match Count.onward? 0 digits with
    | some number =>
      if number.toNat < 65536 then
        some (if number.toNat = usualDoor secure then none else some number.toNat)
      else none
    | none => none
  | _ => none

/-- The segments of a text between its slashes. There is always at least one. -/
def segmentsOf : List Char → List (List Char)
  | [] => [[]]
  | char :: rest =>
    if isSlash char then [] :: segmentsOf rest
    else
      match segmentsOf rest with
      | [] => [[char]]
      | first :: others => (char :: first) :: others

/-! ### Steps within a path -/

/-- A segment with its escaped dots opened. -/
def plainDots : List Char → List Char
  | [] => []
  | '%' :: '2' :: 'e' :: rest => '.' :: plainDots rest
  | '%' :: '2' :: 'E' :: rest => '.' :: plainDots rest
  | char :: rest => char :: plainDots rest

/-- Whether a segment stays where it is. -/
def isHere (segment : List Char) : Bool :=
  plainDots segment == ['.']

/-- Whether a segment goes up. -/
def isUp (segment : List Char) : Bool :=
  plainDots segment == ['.', '.']

/-- Takes the steps within a path. The segments so far are given latest first. A step at the end leaves
an empty segment. -/
def resolve (before : List (List Char)) : List (List Char) → List (List Char)
  | [] => before.reverse
  | [last] =>
    if isUp last then ([] :: before.tail).reverse
    else if isHere last then ([] :: before).reverse
    else (Escape.path last :: before).reverse
  | segment :: rest =>
    if isUp segment then resolve before.tail rest
    else if isHere segment then resolve before rest
    else resolve (Escape.path segment :: before) rest

/-- The segments of a path, whose first slash may be left out. -/
def pathOf (text : List Char) : List (List Char) :=
  match text with
  | [] => [[]]
  | first :: rest =>
    if isSlash first then resolve [] (segmentsOf rest) else resolve [] (segmentsOf text)

/-- The query after a path. -/
def queryOf (text : List Char) : Option (List Char) :=
  match text with
  | '?' :: rest => some (Escape.query (rest.takeWhile (· != '#')))
  | _ => none

/-! ### Reading and writing -/

/-- The address of a text. -/
def ofText? (text : String) : Option Url :=
  match scheme? (clean text.toList) with
  | none => none
  | some (secure, rest) =>
    let rest := rest.dropWhile isSlash
    let isEnd (char : Char) : Bool := isSlash char || endsPath char
    let (server, door) := splitServer (afterLast '@' (rest.takeWhile fun char => !isEnd char))
    let rest := rest.dropWhile fun char => !isEnd char
    let path := rest.takeWhile fun char => !endsPath char
    let query := queryOf (rest.dropWhile fun char => !endsPath char)
    match isServer server, door? secure door with
    | true, some door => some ⟨secure, server.map Char.toLower, door, pathOf path, query⟩
    | _, _ => none

/-- An address with a field appended to its query. -/
def withField (url : Url) (name value : String) : Url :=
  let field := Escape.field name.toList value.toList
  let query :=
    match url.query with
    | none => field
    | some [] => field
    | some query => query ++ '&' :: field
  { url with query := some query }

/-- The path, each segment after a slash. -/
def pathText (url : Url) : List Char :=
  url.segments.flatMap fun segment => '/' :: segment

/-- The path and the query. -/
def target (url : Url) : String :=
  String.ofList (url.pathText ++
    match url.query with
    | none => []
    | some query => '?' :: query)

end Url

end SignedPurchase
