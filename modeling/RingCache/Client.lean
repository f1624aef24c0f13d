import RingCache.Envelope
import RingCache.Group
import RingCache.Text.Percent
import RingCache.Url

/-!
# Clients of peers

A client fetches values from one peer: it asks for the URL made of the peer's
base, the group and the key, and takes only a complete and successful answer
that holds an envelope with octets. Everything else is a transport failure, but
for an answer that names another location: the client asks there, and judges
the answer that it gets in the end.

Whether a request can be sent at all is known at once; what comes back is known
when the network says so (`Delivery`). A `Transport` is what a client knows at
once.
-/

namespace RingCache

/-- What the network makes of a request. -/
inductive Delivery where
  /-- The connection ends before an answer. -/
  | lost
  /-- An answer; a cut one ends before all of its body has come. The location is
  the one that its head names, if it does. -/
  | answered (status : Nat) (body : Octets) (cut : Bool) (location : Option String := none)
  deriving Repr, DecidableEq

/-- The usual phrases of statuses. -/
def statusPhrases : List (Nat × String) :=
  [(100, "Continue"), (101, "Switching Protocols"), (102, "Processing"), (200, "OK"),
    (201, "Created"), (202, "Accepted"), (203, "Non Authoritative Information"),
    (204, "No Content"), (205, "Reset Content"), (206, "Partial Content"),
    (207, "Multi-Status"), (208, "Already Reported"), (226, "IM Used"),
    (300, "Multiple Choices"), (301, "Moved Permanently"), (302, "Found"), (303, "See Other"),
    (304, "Not Modified"), (305, "Use Proxy"), (307, "Temporary Redirect"),
    (308, "Permanent Redirect"), (400, "Bad Request"), (401, "Unauthorized"),
    (402, "Payment Required"), (403, "Forbidden"), (404, "Not Found"),
    (405, "Method Not Allowed"), (406, "Not Acceptable"),
    (407, "Proxy Authentication Required"), (408, "Request Timeout"), (409, "Conflict"),
    (410, "Gone"), (411, "Length Required"), (412, "Precondition Failed"),
    (413, "Payload Too Large"), (414, "URI Too Long"), (415, "Unsupported Media Type"),
    (416, "Range Not Satisfiable"), (417, "Expectation Failed"), (418, "I'm a teapot"),
    (421, "Misdirected Request"), (422, "Unprocessable Entity"), (423, "Locked"),
    (424, "Failed Dependency"), (426, "Upgrade Required"), (428, "Precondition Required"),
    (429, "Too Many Requests"), (431, "Request Header Fields Too Large"),
    (451, "Unavailable For Legal Reasons"), (500, "Internal Server Error"),
    (501, "Not Implemented"), (502, "Bad Gateway"), (503, "Service Unavailable"),
    (504, "Gateway Timeout"), (505, "HTTP Version Not Supported"),
    (506, "Variant Also Negotiates"), (507, "Insufficient Storage"), (508, "Loop Detected"),
    (510, "Not Extended"), (511, "Network Authentication Required")]

/-- A status with its phrase. -/
def statusText (status : Nat) : String :=
  toString status ++ " " ++ (statusPhrases.lookup status).getD "<unknown status code>"

/-- Why a fetch gave no octets. -/
inductive Client.Fault where
  /-- The text is no absolute URL. -/
  | noUrl (raw : String)
  /-- The URL cannot be asked over HTTP. -/
  | unsupported (raw : String) (url : Url)
  /-- No answer came. -/
  | unanswered (raw : String) (url : Url)
  /-- The answer sends the client on, and it has been sent on too often. -/
  | redirected (raw : String) (url : Url)
  /-- The answer is no success. -/
  | status (code : Nat)
  /-- The body is cut, or is no envelope. -/
  | body
  deriving Repr, DecidableEq

/-- The wording of a fault. -/
def Client.Fault.message : Client.Fault -> String
  | .noUrl raw => "requesting " ++ raw ++ ": builder error"
  | .unsupported raw url =>
      "requesting " ++ raw ++ ": builder error for url (" ++ url.text ++ ")"
  | .unanswered raw url =>
      "requesting " ++ raw ++ ": error sending request for url (" ++ url.text ++ ")"
  | .redirected raw url =>
      "requesting " ++ raw ++ ": error following redirect for url (" ++ url.text ++ ")"
  | .status code => "server returned: " ++ statusText code
  | .body => "decoding response body: error decoding response body"

/-- The fault as a lookup's failure. -/
def Client.Fault.failure (fault : Client.Fault) : Failure :=
  .transport fault.message

/-- What is known at once of a request for a URL. -/
abbrev Transport := String -> Reply

namespace Transport

/-- The URL that can be asked over an open connection, or why it cannot be. Peers
behind encrypted connections are out of scope: they are never reached. -/
def permit (raw : String) (url : Url) : Except Client.Fault Url :=
  if !url.isHttp || !url.isSendable then .error (.unsupported raw url)
  else if url.scheme = "https" then .error (.unanswered raw url)
  else .ok url

/-- The URL that a text asks for over an open connection, or why there can be
none. So there is none for the address of an encrypted peer. -/
def target (raw : String) : Except Client.Fault Url :=
  match (Url.parse? raw).map Url.withoutUser with
  | none => .error (.noUrl raw)
  | some url => permit raw url

/-- A reply that says at once why no request can be sent. -/
def refusal (fault : Client.Fault) : Reply :=
  .now (.failure fault.failure)

/-- Requests go out to a network, which answers in its own time. -/
def online : Transport := fun raw =>
  match target raw with
  | .error fault => refusal fault
  | .ok _ => .held

/-- There is no network, so that every request fails at once. -/
def offline : Transport := fun raw =>
  match target raw with
  | .error fault => refusal fault
  | .ok url => refusal (.unanswered raw url)

end Transport

/-- Somebody who fetches values from one peer. -/
structure Client where
  /-- The peer's address with its base path. -/
  base : String
  deriving Repr, DecidableEq

namespace Client

/-- The URL of a group's key. -/
def url (client : Client) (group key : String) : String :=
  client.base ++ Percent.encode group ++ "/" ++ Percent.encode key

/-- The client as a peer of a group. -/
def peer (client : Client) (transport : Transport) : Peer where
  address := client.base
  fetch group key := transport (client.url group key)

/-- Whether a status says that the request succeeded. -/
def isSuccess (status : Nat) : Bool :=
  200 ≤ status && status < 300

/-- Whether a status sends clients to the location that comes with it. -/
def isRedirect (status : Nat) : Bool :=
  [301, 302, 303, 307, 308].contains status

/-- How often a client may be sent on. -/
def mostRedirects : Nat := 10

/-- The URL to which an answer to a request for a URL sends the client on. A
location that cannot stand in a request does not count. -/
def redirect? (url : Url) : Delivery -> Option Url
  | .answered status _ _ (some location) =>
      if isRedirect status then (url.join? location).filter Url.isSendable else none
  | _ => none

/-- The octets in a complete and successful answer. -/
def receive (raw : String) (url : Url) : Delivery -> Result
  | .lost => .error (Fault.unanswered raw url).failure
  | .answered status body cut _ =>
      if !isSuccess status then .error (Fault.status status).failure
      else if cut then .error Fault.body.failure
      else
        -- An answer without content has no body, whatever follows it.
        match Envelope.read (if status = 204 then [] else body) with
        | .error _ => .error Fault.body.failure
        | .ok envelope => envelope.contents

end Client

end RingCache
