import SignedPurchase.Json.Shape.Read
import SignedPurchase.Record.Reply
import SignedPurchase.Text.Count

/-
**Responses of the server.**

A status from 200 to 299 means that the body is the reply; every other status is a refusal. Nothing of
a refusal is lost: its kind, how long to wait, and the server's own code and words are all kept.

* `Response.reply` reads the reply to a question, or tells what went wrong;
* `Response.refusal` tells a refusal;
* `reasonPhrase?` are the usual words for a status.
-/

namespace SignedPurchase

open Json

/-- What the server sends. -/
structure Response where
  status : Nat
  headers : List (String × String)
  /-- The body, or nothing when the connection breaks before its end. -/
  body : Option Bytes
  deriving DecidableEq, Repr

/-- The usual words for a status. -/
def reasonPhrase? (status : Nat) : Option String :=
  [(100, "Continue"), (101, "Switching Protocols"), (102, "Processing"), (103, "Early Hints"),
    (200, "OK"), (201, "Created"), (202, "Accepted"), (203, "Non Authoritative Information"),
    (204, "No Content"), (205, "Reset Content"), (206, "Partial Content"), (207, "Multi-Status"),
    (208, "Already Reported"), (226, "IM Used"),
    (300, "Multiple Choices"), (301, "Moved Permanently"), (302, "Found"), (303, "See Other"),
    (304, "Not Modified"), (305, "Use Proxy"), (307, "Temporary Redirect"),
    (308, "Permanent Redirect"),
    (400, "Bad Request"), (401, "Unauthorized"), (402, "Payment Required"), (403, "Forbidden"),
    (404, "Not Found"), (405, "Method Not Allowed"), (406, "Not Acceptable"),
    (407, "Proxy Authentication Required"), (408, "Request Timeout"), (409, "Conflict"),
    (410, "Gone"), (411, "Length Required"), (412, "Precondition Failed"),
    (413, "Payload Too Large"), (414, "URI Too Long"), (415, "Unsupported Media Type"),
    (416, "Range Not Satisfiable"), (417, "Expectation Failed"), (418, "I'm a teapot"),
    (421, "Misdirected Request"), (422, "Unprocessable Entity"), (423, "Locked"),
    (424, "Failed Dependency"), (425, "Too Early"), (426, "Upgrade Required"),
    (428, "Precondition Required"), (429, "Too Many Requests"),
    (431, "Request Header Fields Too Large"), (451, "Unavailable For Legal Reasons"),
    (500, "Internal Server Error"), (501, "Not Implemented"), (502, "Bad Gateway"),
    (503, "Service Unavailable"), (504, "Gateway Timeout"), (505, "HTTP Version Not Supported"),
    (506, "Variant Also Negotiates"), (507, "Insufficient Storage"), (508, "Loop Detected"),
    (510, "Not Extended"), (511, "Network Authentication Required")].lookup status

/-- A status with its usual words. -/
def statusText (status : Nat) : String :=
  integerText status ++ " " ++ (reasonPhrase? status).getD "<unknown status code>"

namespace Response

/-- Whether the body is the reply. -/
def isSuccess (response : Response) : Bool :=
  200 ≤ response.status && response.status ≤ 299

/-- Whether the server did not accept the bearer token. -/
def rejectsBearer (response : Response) : Bool :=
  response.status == 401

/-- The first header of a name, in any case of its letters. -/
def header? (response : Response) (name : String) : Option String :=
  (response.headers.find? fun header => header.1.map Char.toLower == name).map (·.2)

/-- The milliseconds to wait, if the server names a count of seconds. -/
def wait? (response : Response) : Option Nat :=
  ((response.header? "retry-after").bind Count.read?).map fun seconds => seconds.toNat * 1000

/-- The text of the body. A body that breaks off counts as empty. -/
def text (response : Response) : String :=
  (response.body.map Utf8.decodeLossy).getD ""

/-- What the server says about a refusal, if the body is such a record. -/
def errorReply? (response : Response) : Option ErrorReply :=
  (ErrorReply.shape.decode (Utf8.encode response.text)).toOption

/-- The words for a refusal: those of the server, else the whole body, else those of the status. -/
def words (response : Response) : String :=
  match response.errorReply?.bind (·.errorMessage) with
  | some words => words
  | none => if response.text.isEmpty then statusText response.status else response.text

/-- The refusal of a request for a path. -/
def refusal (response : Response) (path : String) : Failure :=
  if response.rejectsBearer then .unauthorized "API token rejected"
  else if response.status = 404 then .notFound path
  else if response.status = 429 then .rateLimited response.wait?
  else .refused response.status (response.errorReply?.bind (·.errorCode)) response.words

/-- The reply to a request for a path. -/
def reply {α : Type} (response : Response) (path : String) (shape : Shape α) : Outcome α :=
  if response.isSuccess then
    match response.body.map shape.decode with
    | some (.ok value) => .ok value
    | _ => .error (.undecodedReply ("failed to parse response for " ++ path))
  else .error (response.refusal path)

end Response

end SignedPurchase
