import RingCache.Http.Message
import RingCache.Text.Blank

/-!
# Messages on the wire

Requests and responses as a connection carries them: a head of lines, an empty
line, and a body whose length the head announces. A head that cannot be read is
no request.
-/

namespace RingCache.Http

/-- Whether a character is a blank of a head. -/
def isPadding (character : Char) : Bool :=
  character == ' ' || character == '\t' || character == '\r' || character == '\n'

/-- A text without blanks at its ends. -/
def stripped (characters : List Char) : String :=
  String.ofList (Blank.trimBoth isPadding characters)

/-- The name and the value in a line of a head. -/
def Request.headerLine? (line : String) : Option (String × String) :=
  match line.toList.dropWhile (· != ':') with
  | [] => none
  | _ :: value => some (String.ofList (line.toList.takeWhile (· != ':')), stripped value)

/-- The request of a head's lines, still without its body. -/
def Request.ofHead? : List String -> Option Request
  | [] => none
  | first :: lines =>
      match (Blank.trimBoth isPadding first.toList).splitOn ' ' with
      | [method, target, _] => do
          let headers ← lines.mapM Request.headerLine?
          return { method := String.ofList method, target := String.ofList target,
                   headers := headers }
      | _ => none

/-- How long the body of a request is. -/
def Request.announced (request : Request) : Nat :=
  ((request.header? "content-length").bind fun length =>
    Digits.unsigned? Digits.limit64 (Utf8.encode length)).getD 0

/-- The head of a response. -/
def Response.head (response : Response) : String :=
  let lines := ("HTTP/1.1 " ++ toString response.status) ::
    response.headers.map (fun header => header.1 ++ ": " ++ header.2) ++
    ["content-length: " ++ toString response.body.length, "", ""]
  String.intercalate "\r\n" lines

/-- A response on the wire; the answer to a `HEAD` request ends with its
head. -/
def Response.onWire (response : Response) (request : Request) : Octets :=
  Utf8.encode response.head ++ if request.method = "HEAD" then [] else response.body

end RingCache.Http
