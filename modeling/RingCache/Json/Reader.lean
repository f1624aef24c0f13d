import RingCache.Json.Token

/-!
# Reading JSON values of a known shape

A value is read from tokens, left to right, and the first flaw met decides:
what stands after it is never looked at. Three shapes are read: a string, a
list of strings, and a record with one field. A record may be given as an
object, whose other members are skipped, or as a list of its fields.

A reader leaves the tokens after the value. `readWhole` refuses them,
`readLeading` ignores them.
-/

namespace RingCache.Json

/-- A value and the tokens after it, or the first flaw. -/
abbrev Reading (α : Type) := Except Flaw (α × List Token)

/-- A reader of values, which takes at least one token for each value. -/
structure Reader (α : Type) where
  /-- Read a value from the front of tokens. -/
  read : List Token -> Reading α
  /-- A value has at least one token. -/
  shortens : ∀ {tokens value rest}, read tokens = .ok (value, rest) -> rest.length < tokens.length

/-- What is wrong with a token where a value of another shape is due. -/
def Token.mismatch : Token -> Flaw
  | .word flaw => flaw.getD .mismatched
  | .number whenRead _ => whenRead.getD .mismatched
  | .string (.error flaw) _ => flaw
  | .string (.ok _) _ => .mismatched
  | .openArray => .mismatched
  | .openObject => .mismatched
  | _ => .malformed

/-! ## Strings and lists of strings -/

/-- Read a string. -/
def readText : List Token -> Reading String
  | [] => .error .unfinished
  | .string (.ok text) _ :: rest => .ok (text, rest)
  | token :: _ => .error token.mismatch

/-- Read the strings of a list that has at least one, up to its end. -/
def readElements : List Token -> Reading (List String)
  | [] => .error .unfinished
  | .string (.ok text) _ :: .closeArray :: rest => .ok ([text], rest)
  | .string (.ok text) _ :: .comma :: rest =>
      match readElements rest with
      | .ok (texts, rest) => .ok (text :: texts, rest)
      | .error flaw => .error flaw
  | [.string (.ok _) _] => .error .unfinished
  | .string (.ok _) _ :: _ :: _ => .error .malformed
  | token :: _ => .error token.mismatch

/-- Read a list of strings. -/
def readTexts : List Token -> Reading (List String)
  | [] => .error .unfinished
  | .openArray :: .closeArray :: rest => .ok ([], rest)
  | .openArray :: rest => readElements rest
  | token :: _ => .error token.mismatch

theorem readText_shortens {tokens : List Token} {text : String} {rest : List Token}
    (read : readText tokens = .ok (text, rest)) : rest.length < tokens.length := by
  unfold readText at read
  split at read <;> simp_all

theorem readElements_shortens {tokens : List Token} {texts : List String} {rest : List Token}
    (read : readElements tokens = .ok (texts, rest)) : rest.length < tokens.length := by
  fun_induction readElements tokens generalizing texts rest <;> simp_all
  all_goals omega

theorem readTexts_shortens {tokens : List Token} {texts : List String} {rest : List Token}
    (read : readTexts tokens = .ok (texts, rest)) : rest.length < tokens.length := by
  unfold readTexts at read
  split at read
  · cases read
  · cases read
    simp only [List.length_cons]
    omega
  · have shorter := readElements_shortens read
    simp only [List.length_cons]
    omega
  · cases read

/-- The reader of strings. -/
def Reader.text : Reader String := ⟨readText, readText_shortens⟩

/-- The reader of lists of strings. -/
def Reader.texts : Reader (List String) := ⟨readTexts, readTexts_shortens⟩

/-! ## Skipped values -/

/-- A list or an object of which the end has not been reached. -/
inductive Opened where
  /-- A list. -/
  | array
  /-- An object. -/
  | object
  deriving Repr, DecidableEq

/-- What is due at a point inside a skipped value. -/
inductive Due where
  /-- A value. -/
  | value
  /-- The first element of a list, or its end. -/
  | element
  /-- The first name of an object, or its end. -/
  | member
  /-- The name of a member. -/
  | name
  /-- The colon after a name. -/
  | colon
  /-- A comma, or the end of what is open. -/
  | next
  deriving Repr, DecidableEq

/-- A place in a skipped value: what is due, and what is open around it. -/
structure Place where
  /-- What is due. -/
  due : Due
  /-- What is open, innermost first. -/
  opened : List Opened
  deriving Repr, DecidableEq

namespace Place

/-- Continue after a token that is a value, unless it is flawed. -/
def afterScalar (opened : List Opened) : Option Flaw -> Except Flaw Place
  | none => .ok ⟨.next, opened⟩
  | some flaw => .error flaw

/-- Take a token where a value is due. -/
def takeValue (opened : List Opened) : Token -> Except Flaw Place
  | .word flaw => afterScalar opened flaw
  | .number _ whenSkipped => afterScalar opened whenSkipped
  | .string _ whenSkipped => afterScalar opened whenSkipped
  | .openArray => .ok ⟨.element, .array :: opened⟩
  | .openObject => .ok ⟨.member, .object :: opened⟩
  | _ => .error .malformed

/-- Take a token where a name is due. -/
def takeName (opened : List Opened) : Token -> Except Flaw Place
  | .string _ none => .ok ⟨.colon, opened⟩
  | .string _ (some flaw) => .error flaw
  | _ => .error .malformed

/-- Take a token after a value. -/
def takeNext : List Opened -> Token -> Except Flaw Place
  | .array :: opened, .comma => .ok ⟨.value, .array :: opened⟩
  | .array :: opened, .closeArray => .ok ⟨.next, opened⟩
  | .object :: opened, .comma => .ok ⟨.name, .object :: opened⟩
  | .object :: opened, .closeObject => .ok ⟨.next, opened⟩
  | _, _ => .error .malformed

/-- Take one token. -/
def take (place : Place) (token : Token) : Except Flaw Place :=
  match place.due, token with
  | .value, token => takeValue place.opened token
  | .element, .closeArray => takeNext place.opened .closeArray
  | .element, token => takeValue place.opened token
  | .member, .closeObject => takeNext place.opened .closeObject
  | .member, token => takeName place.opened token
  | .name, token => takeName place.opened token
  | .colon, .colon => .ok ⟨.value, place.opened⟩
  | .colon, _ => .error .malformed
  | .next, token => takeNext place.opened token

/-- Whether the skipped value has ended. -/
def isEnd (place : Place) : Bool :=
  place.due = .next && place.opened.isEmpty

end Place

/-- Skip the rest of a value, from a place inside it. -/
def skipFrom (place : Place) : List Token -> Except Flaw (List Token)
  | [] => if place.isEnd then .ok [] else .error .unfinished
  | token :: rest =>
      if place.isEnd then .ok (token :: rest)
      else
        match place.take token with
        | .error flaw => .error flaw
        | .ok place => skipFrom place rest

/-- Skip a value. -/
def skipValue (tokens : List Token) : Except Flaw (List Token) :=
  skipFrom ⟨.value, []⟩ tokens

theorem length_skipFrom {place : Place} {tokens rest : List Token}
    (skipped : skipFrom place tokens = .ok rest) : rest.length ≤ tokens.length := by
  induction tokens generalizing place with
  | nil =>
      unfold skipFrom at skipped
      split at skipped <;> simp_all
  | cons token tokens ih =>
      unfold skipFrom at skipped
      split at skipped
      · simp_all
      · split at skipped
        · simp at skipped
        · exact Nat.le_succ_of_le (ih skipped)

/-! ## Records -/

/-- Read the rest of a record given as a list of its fields. -/
def readListed {α : Type} (field : Reader α) : List Token -> Reading α
  | [] => .error .unfinished
  | .closeArray :: _ => .error .mismatched
  | tokens =>
      match field.read tokens with
      | .error flaw => .error flaw
      | .ok (value, .closeArray :: rest) => .ok (value, rest)
      | .ok (_, []) => .error .unfinished
      | .ok (_, _ :: _) => .error .malformed

/-- What a record's member gives: the field's value, or nothing for a member of
another name. The tokens after the member are left. -/
def readMember {α : Type} (name : String) (field : Reader α) (found : Option α) :
    List Token -> Reading (Option α)
  | .string (.ok read) _ :: rest =>
      if read = name then
        match found, rest with
        | some _, _ => .error .mismatched
        | none, [] => .error .unfinished
        | none, .colon :: rest =>
            match field.read rest with
            | .ok (value, rest) => .ok (some value, rest)
            | .error flaw => .error flaw
        | none, _ :: _ => .error .malformed
      else
        match rest with
        | [] => .error .unfinished
        | .colon :: rest =>
            match skipValue rest with
            | .ok rest => .ok (found, rest)
            | .error flaw => .error flaw
        | _ :: _ => .error .malformed
  | .string (.error flaw) _ :: _ => .error flaw
  | _ :: _ => .error .malformed
  | [] => .error .unfinished

theorem readMember_shortens {α : Type} {name : String} {field : Reader α} {found value : Option α}
    {tokens rest : List Token} (read : readMember name field found tokens = .ok (value, rest)) :
    rest.length < tokens.length := by
  unfold readMember at read
  split at read
  · split at read
    · split at read
      · simp at read
      · simp at read
      · split at read
        · rename_i taken
          have := field.shortens taken
          simp_all
          omega
        · simp at read
      · simp at read
    · split at read
      · simp at read
      · split at read
        · rename_i taken
          have := length_skipFrom taken
          simp_all
          omega
        · simp at read
      · simp at read
  · simp at read
  · simp at read
  · simp at read

/-- Read the members of a record, the first one without a comma before it. -/
def readMembers {α : Type} (name : String) (field : Reader α) (found : Option α)
    (tokens : List Token) : Reading α :=
  match taken : readMember name field found tokens with
  | .error flaw => .error flaw
  | .ok (_, []) => .error .unfinished
  | .ok (found, .closeObject :: rest) =>
      match found with
      | some value => .ok (value, rest)
      | none => .error .mismatched
  | .ok (found, .comma :: rest) =>
      have : rest.length < tokens.length := Nat.lt_of_succ_lt (readMember_shortens taken)
      readMembers name field found rest
  | .ok (_, _ :: _) => .error .malformed
  termination_by tokens.length

/-- Read a record with one field. -/
def readRecord {α : Type} (name : String) (field : Reader α) : List Token -> Reading α
  | [] => .error .unfinished
  | .openArray :: rest => readListed field rest
  | [.openObject] => .error .unfinished
  | .openObject :: .closeObject :: _ => .error .mismatched
  | .openObject :: rest => readMembers name field none rest
  | token :: _ => .error token.mismatch

/-! ## Texts -/

/-- Read octets that hold one record and nothing else. -/
def readWhole {α : Type} (name : String) (field : Reader α) (octets : Octets) : Except Flaw α :=
  match readRecord name field (tokens octets) with
  | .ok (value, []) => .ok value
  | .ok (_, _ :: _) => .error .malformed
  | .error flaw => .error flaw

/-- Read the record at the front of octets, whatever stands after it. -/
def readLeading {α : Type} (name : String) (field : Reader α) (octets : Octets) : Except Flaw α :=
  (readRecord name field (tokens octets)).map Prod.fst

end RingCache.Json
