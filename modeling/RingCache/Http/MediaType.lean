/-!
# Media types

Whether a `content-type` header announces JSON. A media type is a type, a slash
and a subtype, which may have a suffix after its last plus sign; parameters
follow after semicolons. JSON is `application/json` and any application type
with the suffix, in any case of letters and with any parameters. A header that
is no media type announces nothing, nor does one that is not in ASCII.
-/

namespace RingCache.Http.MediaType

/-- Whether a character may stand in a name. -/
def isToken (c : Char) : Bool :=
  c.isAlphanum || "!#$%&'*+-.^_\x60|~".contains c

/-- Whether a character may stand in a quoted value. -/
def isQuotable (c : Char) : Bool :=
  31 < c.toNat && c.toNat < 127

/-- Read blanks up to the next parameter, after a quoted value. -/
def afterQuoted : List Char -> Option (List Char)
  | [] => some []
  | ';' :: rest => some rest
  | ' ' :: rest => afterQuoted rest
  | _ => none

/-- Read the value of a parameter, up to the next one. A quote ends a quoted
value only after something else. -/
def value? : List Char -> Option (List Char)
  | '"' :: first :: rest =>
      if !isQuotable first then none
      else
        match (rest.dropWhile fun c => isQuotable c && c != '"') with
        | '"' :: rest => afterQuoted rest
        | _ => none
  | text =>
      let value := text.takeWhile isToken
      match text.dropWhile isToken with
      | [] => some []
      | ';' :: rest => if value.isEmpty then none else some rest
      | _ => none

/-- Read a parameter, up to the next one. Blanks without one are none. -/
def parameter? (text : List Char) : Option (List Char) :=
  let text := text.dropWhile (· == ' ')
  let name := text.takeWhile isToken
  match text.dropWhile isToken with
  | '=' :: rest => if name.isEmpty then none else value? rest
  | [] => if name.isEmpty then some [] else none
  | _ => none

/-- Whether parameters are well formed; each one takes at least one of the
`steps` characters. -/
def areParameters : Nat -> List Char -> Bool
  | _, [] => true
  | 0, _ => false
  | steps + 1, text =>
      match parameter? text with
      | some rest => areParameters steps rest
      | none => false

/-- The parts of a subtype around its last plus sign, unless it starts with
it. -/
def splitSuffix (subtype : List Char) : List Char × Option (List Char) :=
  let suffix := (subtype.reverse.takeWhile (· != '+')).reverse
  let name := subtype.take (subtype.length - (suffix.length + 1))
  if name.isEmpty then (subtype, none) else (name, some suffix)

/-- Whether a header announces JSON. -/
def isJson (header : String) : Bool :=
  let text := header.toList.map Char.toLower
  let type := text.takeWhile isToken
  match text.dropWhile isToken with
  | '/' :: rest =>
      let subtype := rest.takeWhile isToken
      let wellFormed :=
        match rest.dropWhile isToken with
        | [] => true
        | ';' :: parameters =>
            !subtype.isEmpty && areParameters parameters.length parameters
        | _ => false
      let (name, suffix) := splitSuffix subtype
      wellFormed && type == "application".toList &&
        (name == "json".toList || suffix == some "json".toList)
  | _ => false

end RingCache.Http.MediaType
