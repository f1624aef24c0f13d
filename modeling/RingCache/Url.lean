import RingCache.HostName
import RingCache.HostName.Numeric
import RingCache.Text.Blank
import RingCache.Url.Path

/-!
# Absolute URLs

`Url.parse?` reads an absolute URL and brings it to its one normal form: the
scheme and the host in lower case, the default port left out, dot segments of
the path resolved, and all characters escaped that may not stand in a URL.
`Url.text` is that form.

The schemes of the web have an authority and a path however many slashes come
after the colon, and a backslash is a slash to them. Any other scheme has an
authority only after two slashes, and without a slash its path is opaque. Hosts
are names, IPv4 addresses or, in brackets, IPv6 addresses; a name beyond ASCII
is written in Punycode.
-/

namespace RingCache

/-- An absolute URL in normal form. -/
structure Url where
  /-- The scheme, in lower case. -/
  scheme : String
  /-- The name of the user, escaped. -/
  user : String := ""
  /-- The password of the user, escaped. -/
  password : Option String := none
  /-- The host, if the URL has an authority. -/
  host : Option String
  /-- The port, unless it is the default one. -/
  port : Option Nat := none
  /-- The path. -/
  path : String
  /-- The query, after its question mark. -/
  query : Option String := none
  /-- The fragment, after its number sign. -/
  fragment : Option String := none
  deriving Repr, DecidableEq

namespace Url

/-- The schemes of the web, with their default ports. -/
def webSchemes : List (String × Option Nat) :=
  [("http", some 80), ("https", some 443), ("ws", some 80), ("wss", some 443),
    ("ftp", some 21), ("file", none)]

/-- Whether a scheme is one of the web. -/
def isWeb (scheme : String) : Bool :=
  (webSchemes.lookup scheme).isSome

/-! ## Scheme -/

/-- Whether a character may stand in a scheme after its first letter. -/
def isSchemeChar (character : Char) : Bool :=
  character.isAlphanum || ['+', '-', '.'].contains character

/-- The scheme of an absolute URL and what comes after its colon. -/
def splitScheme? (characters : List Char) : Option (String × List Char) :=
  let scheme := characters.takeWhile isSchemeChar
  match scheme, characters.dropWhile isSchemeChar with
  | first :: _, ':' :: rest =>
      if first.isAlpha then some (String.ofList (scheme.map Char.toLower), rest) else none
  | _, _ => none

/-! ## Authority -/

/-- The normal form of an IPv6 address in brackets, given without the first
one. -/
def bracketed? (inner : List Char) : Option String := do
  if inner.getLast? != some ']' then none
  return "[" ++ (← Numeric.ipv6? inner.dropLast) ++ "]"

/-- The normal form of a host of the web. A name that ends in a number is an
IPv4 address. -/
def webHost? : List Char -> Option String
  | '[' :: inner => bracketed? inner
  | host => do
      let text ← (Percent.decode (String.ofList host)).toOption
      let name ← HostName.ascii? text.toList
      if name.isEmpty then none
      if Numeric.endsInNumber name then Numeric.ipv4? name else return String.ofList name

/-- Characters that no host of another scheme holds. -/
def isUnfit (character : Char) : Bool :=
  HostName.isForbidden character && character != '%' &&
    ([' ', '\x00'].contains character || 0x20 < character.toNat && character.toNat != 0x7F)

/-- The normal form of a host of another scheme, which may be empty. -/
def plainHost? : List Char -> Option String
  | '[' :: inner => bracketed? inner
  | host =>
      if host.any isUnfit then none
      else some (String.ofList (Escape.all (fun _ => false) host))

/-- Whether a character ends the authority of a URL. -/
def isSlash (web : Bool) (character : Char) : Bool :=
  character == '/' || (web && character == '\\')

/-- The host at the front of a text, up to a colon outside brackets or the end
of the authority. -/
def hostPart (web inside : Bool) : List Char -> List Char
  | [] => []
  | character :: rest =>
      if isSlash web character || (character == ':' && !inside) then []
      else
        character ::
          hostPart web ((inside || character == '[') && character != ']') rest

/-- The number of a port and what comes after it; without digits it is the
default one. Any slash ends it. -/
def port? (text : List Char) : Option (Option Nat × List Char) := do
  let digits := text.takeWhile Char.isDigit
  let rest := text.drop digits.length
  if !rest.head?.all (isSlash true) then none
  if digits.isEmpty then return (none, rest)
  let port ← Digits.unsigned? Digits.limit16 (digits.map fun digit => UInt8.ofNat digit.toNat)
  return (some port, rest)

/-- What stands before the last at sign of an authority, and the text after
it. -/
def splitUser (web : Bool) (text : List Char) : Option (List Char) × List Char :=
  let authority := text.takeWhile fun character => !isSlash web character
  match authority.reverse.dropWhile (· != '@') with
  | [] => (none, text)
  | _ :: reversed => (some reversed.reverse, text.drop (reversed.length + 1))

/-- Users' names and passwords as they stand in a URL. -/
def escapeUser (text : List Char) : String :=
  String.ofList (Escape.all Escape.inUser text)

/-- The name and the password in what stands before an at sign. -/
def credentials (text : List Char) : String × Option String :=
  let user := escapeUser (text.takeWhile (· != ':'))
  match text.dropWhile (· != ':') with
  | _ :: first :: rest => (user, some (escapeUser (first :: rest)))
  | _ => (user, none)

/-- The authority at the front of a text, in a URL whose other parts are still
missing, and the text after it. Only a scheme that is not of the web may go
without a host, and then it has no user and no port. -/
def authority? (scheme : String) (text : List Char) : Option (Url × List Char) := do
  let web := isWeb scheme
  let (before, text) := splitUser web text
  let (user, password) := credentials (before.getD [])
  let written := hostPart web false text
  let rest := text.drop written.length
  if written.isEmpty && (web || before.isSome || rest.head? == some ':') then none
  let host ← if web then webHost? written else plainHost? written
  let (port, rest) ← match rest with
    | ':' :: rest => port? rest
    | rest => some (none, rest)
  let standard := (webSchemes.lookup scheme).join
  let url : Url := {
    scheme := scheme
    user := user
    password := password
    host := some host
    port := if port = standard then none else port
    path := "" }
  return (url, rest)

/-! ## Whole URLs -/

/-- The parts of a text around the first character `mark`. -/
def cutAt (mark : Char) (text : List Char) : List Char × Option (List Char) :=
  match text.dropWhile (· != mark) with
  | [] => (text, none)
  | _ :: rest => (text.takeWhile (· != mark), some rest)

/-- The URL of a file on a host. A drive at the front of the path is a place of
its own, whatever host is named. -/
def ofFile (host : String) (path : List Char) : Url :=
  let segments := Path.resolve true (Path.segments true path)
  { scheme := "file"
    host := some (if segments.head?.any Path.isDrive then "" else host)
    path := Path.text (Path.withoutLead segments) }

/-- The URL of a file, from what comes after the colon. A drive is no host. -/
def file? (rest : List Char) : Option Url := do
  match rest.map fun c => if isSlash true c then '/' else c with
  | '/' :: '/' :: rest =>
      let written := rest.takeWhile (· != '/')
      if Path.isDrive written then return ofFile "" rest
      let rest := rest.drop written.length
      if written.isEmpty then return ofFile "" rest
      let host ← webHost? written
      if host = "localhost" then return ofFile "" rest else return ofFile host (rest.drop 1)
  | '/' :: rest => return ofFile "" rest
  | rest => return ofFile "" rest

/-- A URL of the web but for files, from what comes after the colon. -/
def web? (scheme : String) (rest : List Char) : Option Url := do
  let (url, rest) ← authority? scheme (rest.dropWhile (isSlash true))
  return { url with path := Path.text (Path.resolve false (Path.segments true (rest.drop 1))) }

/-- The path of another scheme, given with its first slash if it has one. -/
def plainPath : List Char -> String
  | [] => ""
  | '/' :: rest => Path.text (Path.resolve false (Path.segments false rest))
  | rest => Path.text (Path.resolve false (Path.segments false rest))

/-- A URL of another scheme, from what comes after the colon. -/
def plain? (scheme : String) : List Char -> Option Url
  | '/' :: '/' :: rest => do
      let (url, rest) ← authority? scheme rest
      return { url with path := plainPath rest }
  | '/' :: rest => some { scheme := scheme, host := none, path := plainPath ('/' :: rest) }
  | rest =>
      some {
        scheme := scheme
        host := none
        path := String.ofList (Escape.all (fun _ => false) rest) }

/-- A URL without query and fragment, from what comes after the colon. -/
def ofScheme? (scheme : String) (rest : List Char) : Option Url :=
  if scheme = "file" then file? rest
  else if isWeb scheme then web? scheme rest
  else plain? scheme rest

/-- Whether a character is dropped from the ends of a URL. -/
def isMargin (character : Char) : Bool :=
  character.toNat ≤ 0x20

/-- Whether a character is dropped wherever it stands in a URL. -/
def isBreak (character : Char) : Bool :=
  ['\t', '\n', '\r'].contains character

/-- The characters of a URL that count. -/
def written (raw : String) : List Char :=
  (Blank.trimBoth isMargin raw.toList).filter fun c => !isBreak c

/-- A URL with a query and a fragment, as they are written. -/
def mark (url : Url) (query fragment : Option (List Char)) : Url :=
  { url with
    query := query.map fun text =>
      String.ofList (Escape.all (Escape.inQuery (isWeb url.scheme)) text)
    fragment := fragment.map fun text => String.ofList (Escape.all Escape.inFragment text) }

/-- Read an absolute URL. -/
def parse? (raw : String) : Option Url := do
  let (scheme, rest) ← splitScheme? (written raw)
  let (rest, fragment) := cutAt '#' rest
  let (rest, query) := cutAt '?' rest
  return (← ofScheme? scheme rest).mark query fragment

/-! ## References -/

/-- The segments of a path before the last one. -/
def folder (url : Url) : List (List Char) :=
  (Path.segments true (url.path.toList.drop 1)).dropLast

/-- The URL of a path that is written on the page of a URL of the web. After two
slashes there is another host. -/
def follow? (base : Url) : List Char -> Option Url
  | [] => some base
  | first :: rest =>
      if !isSlash true first then
        let segments := base.folder ++ Path.segments true (first :: rest)
        some { base with path := Path.text (Path.resolve false segments) }
      else if rest.head?.any (isSlash true) then web? base.scheme rest
      else some { base with path := Path.text (Path.resolve false (Path.segments true rest)) }

/-- The URL of a reference without scheme. An empty one means the same page. -/
def relative? (base : Url) (text : List Char) : Option Url := do
  let (rest, fragment) := cutAt '#' text
  let (path, query) := cutAt '?' rest
  let url := (← base.follow? path).mark query fragment
  return if rest.isEmpty then { url with query := base.query } else url

/-- The URL that a reference means on the page of a URL of the web, other than
one of a file. The scheme of the page does not make a reference absolute. -/
def join? (base : Url) (reference : String) : Option Url :=
  match splitScheme? (written reference) with
  | none => base.relative? (written reference)
  | some (scheme, rest) =>
      if scheme = base.scheme then base.relative? rest else parse? reference

/-! ## Text -/

/-- The host with the port, unless it is the default one. -/
def authority (url : Url) : String :=
  url.host.getD "" ++ url.port.elim "" fun port => ":" ++ toString port

/-- The name and the password of the user with an at sign, if there are any. -/
def userText (url : Url) : String :=
  if url.user.isEmpty && url.password.isNone then ""
  else url.user ++ (url.password.elim "" (":" ++ ·)) ++ "@"

/-- What stands between the scheme and the path. A path that starts with two
slashes is kept from being read as an authority. -/
def lead (url : Url) : String :=
  if url.host.isSome then "//" ++ url.userText ++ url.authority
  else if url.path.startsWith "//" then "/."
  else ""

/-- The normal form of a URL. -/
def text (url : Url) : String :=
  url.scheme ++ ":" ++ url.lead ++ url.path ++
    (url.query.elim "" ("?" ++ ·)) ++ (url.fragment.elim "" ("#" ++ ·))

/-- Whether a URL has a host that can be asked over HTTP, encrypted or not. -/
def isHttp (url : Url) : Bool :=
  (url.scheme == "http" || url.scheme == "https") && url.host.isSome

/-- The URL without the user, who is named in a header of its own. A name that
is no text cannot be, and stays; a password that is none is dropped along with a
name, and stays without one. -/
def withoutUser (url : Url) : Url :=
  match Percent.decode url.user, url.password.map Percent.decode with
  | .error _, _ => url
  | .ok "", none => url
  | .ok "", some (.error _) => url
  | .ok _, _ => { url with user := "", password := none }

/-- The most characters of a URL that is sent. -/
def longestSent : Nat := 65534

/-- Whether a URL can stand in a request: it is not too long, and its host holds
none of the characters that hosts may hold but requests may not. -/
def isSendable (url : Url) : Bool :=
  url.text.length ≤ longestSent &&
    !(url.host.getD "").any fun character => ['"', '\x60', '\x7b', '\x7d'].contains character

end Url

end RingCache
