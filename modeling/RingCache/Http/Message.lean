import RingCache.Envelope
import RingCache.Outcome
import RingCache.Report

/-!
# Requests and responses

What a node is asked over HTTP and what it answers, as far as anybody may rely
on it: status, the headers that say what the body is and who may use it, and
the body. A rejection has a body of plain text for people, which is left out.
-/

namespace RingCache.Http

/-- A request. -/
structure Request where
  /-- The method. -/
  method : String
  /-- The target, as it stands in the request. -/
  target : String
  /-- The headers. -/
  headers : List (String × String) := []
  /-- The body. -/
  body : Octets := []
  deriving Repr, DecidableEq

/-- A response. -/
structure Response where
  /-- The status. -/
  status : Nat
  /-- The headers, their names in lower case. -/
  headers : List (String × String) := []
  /-- The body. -/
  body : Octets := []
  deriving Repr, DecidableEq

namespace Request

/-- A request for a target. -/
def get (target : String) : Request :=
  { method := "GET", target := target }

/-- The value of a header, whatever case its name is written in. -/
def header? (request : Request) (name : String) : Option String :=
  (request.headers.find? fun header => header.1.map Char.toLower == name).map Prod.snd

/-- What comes after the scheme of an absolute target. -/
def afterScheme? : List Char -> Option (List Char)
  | ':' :: '/' :: '/' :: rest => some rest
  | _ :: rest => afterScheme? rest
  | [] => none

/-- The path of a target that starts with one, up to its query. -/
def pathOf (target : List Char) : String :=
  match target.takeWhile fun c => c != '?' && c != '#' with
  | [] => "/"
  | path => String.ofList path

/-- The path of a request. A target that is only an authority has none. -/
def path (request : Request) : String :=
  match request.target.toList with
  | '/' :: rest => pathOf ('/' :: rest)
  | ['*'] => "*"
  | target =>
      match afterScheme? target with
      | some rest => pathOf (rest.dropWhile fun c => c != '/' && c != '?' && c != '#')
      | none => ""

end Request

namespace Response

/-- The type of octets. -/
def octetStream : String := "application/octet-stream"

/-- The type of JSON texts. -/
def jsonType : String := "application/json"

/-- The type of the texts of rejections. -/
def plainType : String := "text/plain; charset=utf-8"

/-- A value's octets. -/
def octets (body : Octets) : Response :=
  { status := 200, headers := [("content-type", octetStream)], body := body }

/-- A JSON value. -/
def json (status : Nat) (value : Json.Value) : Response :=
  { status := status
    headers := [("content-type", jsonType)]
    body := Utf8.encode value.render }

/-- A failure. -/
def failure (cause : Failure) : Response :=
  json cause.status (Report.failure cause)

/-- A rejection before the request has been looked at closely. -/
def rejection (status : Nat) : Response :=
  { status := status, headers := [("content-type", plainType)] }

/-- Whether the body is plain text. -/
def isPlain (response : Response) : Bool :=
  (response.headers.lookup "content-type").any fun type => type.startsWith "text/plain"

/-- The response without its body. -/
def withoutBody (response : Response) : Response :=
  { response with body := [] }

/-- The response with a header. -/
def withHeader (response : Response) (name value : String) : Response :=
  { response with headers := response.headers ++ [(name, value)] }

/-- The response with leave for scripts of any origin to read it. -/
def anyOrigin (response : Response) : Response :=
  response.withHeader "access-control-allow-origin" "*"

/-- The answer to the question what scripts may ask. -/
def preflight : Response :=
  (({ status := 200 : Response }.anyOrigin).withHeader
    "access-control-allow-methods" "*").withHeader "access-control-allow-headers" "*"

/-- A lookup's result, in octets or in an envelope. -/
def ofResult (sealed : Bool) : Result -> Response
  | .ok value =>
      if sealed then json 200 (Envelope.ofOctets value).toJson else octets value
  | .error cause => failure cause

end Response

end RingCache.Http
