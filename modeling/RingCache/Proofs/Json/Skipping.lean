import RingCache.Json.Reader
import RingCache.Proofs.Json.Tokens

/-!
# Skipping values

Whoever skips the compact text of a value ends right behind it, or refuses it for one
of its numbers (`Leads`). So the members of an object are met one by one under their
own names, however deep their values go, and an object in which no member has the name
of a field is not read as a record with this field (`readWhole_unnamed`).
-/

namespace RingCache.Json

/-! ## Values without odd numbers -/

mutual

/-- Whether all numbers in a value are made like numbers. -/
def Value.Numeric : Value → Prop
  | .null => True
  | .bool _ => True
  | .number text => Token.IsNumeral (spell text.toList)
  | .string _ => True
  | .array elements => Value.NumericAll elements
  | .object members => Value.NumericMembers members

/-- Whether all numbers in list elements are. -/
def Value.NumericAll : List Value → Prop
  | [] => True
  | element :: rest => element.Numeric ∧ Value.NumericAll rest

/-- Whether all numbers in object members are. -/
def Value.NumericMembers : List (String × Value) → Prop
  | [] => True
  | member :: rest => member.2.Numeric ∧ Value.NumericMembers rest

end

theorem Value.numericAll_iff {elements : List Value} :
    Value.NumericAll elements ↔ ∀ element ∈ elements, element.Numeric := by
  induction elements with
  | nil => simp [NumericAll]
  | cons element rest inductionHypothesis => simp [NumericAll, inductionHypothesis]

theorem Value.numericMembers_iff {members : List (String × Value)} :
    Value.NumericMembers members ↔ ∀ member ∈ members, member.2.Numeric := by
  induction members with
  | nil => simp [NumericMembers]
  | cons member rest inductionHypothesis => simp [NumericMembers, inductionHypothesis]

/-! ## Skipping -/

/-- Skipping the tokens of octets from a place leads to another place with what is
left, if it does not fail before. -/
def Leads (place : Place) (octets : Octets) (next : Place) (rest : Octets) : Prop :=
  ∀ left, skipFrom place (tokens octets) = .ok left → skipFrom next (tokens rest) = .ok left

variable {place middle next : Place} {octets others rest : Octets} {opened : List Opened}
  {token : Token}

theorem Leads.trans (first : Leads place octets middle others)
    (second : Leads middle others next rest) : Leads place octets next rest :=
  fun left skipped => second left (first left skipped)

/-- One token leads to the place behind it. -/
theorem Leads.of_token (split : tokens octets = token :: tokens rest)
    (inside : place.isEnd = false) (taken : place.take token = .ok next) :
    Leads place octets next rest := by
  intro left skipped
  rw [split, skipFrom, inside, taken] at skipped
  exact skipped

/-- A refused token leads nowhere. -/
theorem Leads.of_refused {flaw : Flaw} (split : tokens octets = [token])
    (inside : place.isEnd = false) (refused : place.take token = .error flaw) :
    Leads place octets next rest := by
  intro left skipped
  rw [split, skipFrom, inside, refused] at skipped
  cases skipped

/-- Whether a value may start at a place. -/
def Place.Expects (place : Place) (opened : List Opened) : Prop :=
  place = ⟨.value, opened⟩ ∨ place = ⟨.element, opened⟩

theorem Place.Expects.inside (expects : place.Expects opened) : place.isEnd = false := by
  rcases expects with rfl | rfl <;> rfl

/-- A token that is a value, or opens one, is taken alike wherever a value may
start. -/
theorem Place.Expects.take (expects : place.Expects opened) (token : Token)
    (notClosing : token ≠ .closeArray) : place.take token = takeValue opened token := by
  rcases expects with rfl | rfl
  · rfl
  · cases token <;> first | rfl | exact absurd rfl notClosing

/-- A string leads behind it. -/
theorem leads_string (expects : place.Expects opened) (text : String) (rest : Octets) :
    Leads place (spell (Value.quoted text) ++ rest) ⟨.next, opened⟩ rest :=
  .of_token (tokens_quoted text) expects.inside (expects.take _ nofun)

/-- A number leads behind it, or nowhere. -/
theorem leads_number (expects : place.Expects opened) (isNumeral : Token.IsNumeral octets)
    (ends : Token.Ends rest) : Leads place (octets ++ rest) ⟨.next, opened⟩ rest := by
  rcases tokens_numeral isNumeral ends with ⟨whenRead, split⟩ | refused
  · exact .of_token split expects.inside (expects.take _ nofun)
  · exact .of_refused refused expects.inside (expects.take _ nofun)

/-- The name of a member leads to its value. -/
theorem leads_name (due : place = ⟨.member, opened⟩ ∨ place = ⟨.name, opened⟩) (name : String)
    (rest : Octets) :
    Leads place (spell (Value.quoted name) ++ (58 :: rest)) ⟨.value, opened⟩ rest := by
  have named : Leads place (spell (Value.quoted name) ++ (58 :: rest)) ⟨.colon, opened⟩ (58 :: rest) := by
    rcases due with rfl | rfl <;> exact .of_token (tokens_quoted name) rfl rfl
  exact named.trans (.of_token tokens_colon rfl rfl)

theorem ends_comma (rest : Octets) : Token.Ends (44 :: rest) := by
  rintro octet ⟨⟩
  exact .inl rfl

theorem ends_closeArray (rest : Octets) : Token.Ends (93 :: rest) := by
  rintro octet ⟨⟩
  exact .inr (.inl rfl)

theorem ends_closeObject (rest : Octets) : Token.Ends (125 :: rest) := by
  rintro octet ⟨⟩
  exact .inr (.inr rfl)

mutual

/-- A value leads behind it. -/
theorem leads_value (value : Value) (numeric : value.Numeric) {place : Place}
    {opened : List Opened} {rest : Octets} (expects : place.Expects opened)
    (ends : Token.Ends rest) :
    Leads place (spell value.chars ++ rest) ⟨.next, opened⟩ rest := by
  match value, numeric with
  | .null, _ => exact .of_token tokens_null expects.inside (expects.take _ nofun)
  | .bool value, _ => exact .of_token (tokens_bool value) expects.inside (expects.take _ nofun)
  | .number text, numeric => exact leads_number expects numeric ends
  | .string text, _ => exact leads_string expects text rest
  | .array elements, numeric =>
      have spelled : spell (Value.array elements).chars ++ rest =
          91 :: (spell (Value.elementChars elements) ++ 93 :: rest) := by
        simp only [Value.chars, spell_cons, spell_append, List.append_assoc]
        rfl
      have opens : Leads place (spell (Value.array elements).chars ++ rest)
          ⟨.element, .array :: opened⟩ (spell (Value.elementChars elements) ++ 93 :: rest) := by
        rw [spelled]
        exact .of_token tokens_openArray expects.inside (expects.take _ nofun)
      refine opens.trans ?_
      match elements, numeric with
      | [], _ => exact .of_token tokens_closeArray rfl rfl
      | element :: others, numeric =>
          exact leads_elements (element :: others) numeric (.inr rfl) (List.cons_ne_nil _ _)
  | .object members, numeric =>
      have spelled : spell (Value.object members).chars ++ rest =
          123 :: (spell (Value.memberChars members) ++ 125 :: rest) := by
        simp only [Value.chars, spell_cons, spell_append, List.append_assoc]
        rfl
      have opens : Leads place (spell (Value.object members).chars ++ rest)
          ⟨.member, .object :: opened⟩ (spell (Value.memberChars members) ++ 125 :: rest) := by
        rw [spelled]
        exact .of_token tokens_openObject expects.inside (expects.take _ nofun)
      refine opens.trans ?_
      match members, numeric with
      | [], _ => exact .of_token tokens_closeObject rfl rfl
      | member :: others, numeric =>
          exact leads_members (member :: others) numeric (.inl rfl) (List.cons_ne_nil _ _)

/-- The elements of a list lead behind the list. -/
theorem leads_elements (elements : List Value) (numeric : Value.NumericAll elements)
    {place : Place} {opened : List Opened} {rest : Octets}
    (expects : place.Expects (.array :: opened)) (filled : elements ≠ []) :
    Leads place (spell (Value.elementChars elements) ++ 93 :: rest) ⟨.next, opened⟩ rest := by
  match elements, numeric with
  | [], _ => exact absurd rfl filled
  | [element], numeric =>
      have one := leads_value element numeric.1 expects (ends_closeArray rest)
      exact one.trans (.of_token tokens_closeArray rfl rfl)
  | element :: next :: others, numeric =>
      have spelled : spell (Value.elementChars (element :: next :: others)) ++ 93 :: rest =
          spell element.chars ++ 44 :: (spell (Value.elementChars (next :: others)) ++ 93 :: rest) := by
        simp only [Value.elementChars, spell_cons, spell_append, List.append_assoc]
        rfl
      rw [spelled]
      have one := leads_value element numeric.1 expects
        (ends_comma (spell (Value.elementChars (next :: others)) ++ 93 :: rest))
      refine (one.trans (.of_token tokens_comma rfl rfl)).trans ?_
      exact leads_elements (next :: others) numeric.2 (.inl rfl) (List.cons_ne_nil _ _)

/-- The members of an object lead behind the object. -/
theorem leads_members (members : List (String × Value)) (numeric : Value.NumericMembers members)
    {place : Place} {opened : List Opened} {rest : Octets}
    (due : place = ⟨.member, .object :: opened⟩ ∨ place = ⟨.name, .object :: opened⟩)
    (filled : members ≠ []) :
    Leads place (spell (Value.memberChars members) ++ 125 :: rest) ⟨.next, opened⟩ rest := by
  match members, numeric with
  | [], _ => exact absurd rfl filled
  | [(name, value)], numeric =>
      have spelled : spell (Value.memberChars [(name, value)]) ++ 125 :: rest =
          spell (Value.quoted name) ++ 58 :: (spell value.chars ++ 125 :: rest) := by
        simp only [Value.memberChars, spell_cons, spell_append, List.append_assoc]
        rfl
      rw [spelled]
      have one := (leads_name due name (spell value.chars ++ 125 :: rest)).trans
        (leads_value value numeric.1 (.inl rfl) (ends_closeObject rest))
      exact one.trans (.of_token tokens_closeObject rfl rfl)
  | (name, value) :: next :: others, numeric =>
      have spelled : spell (Value.memberChars ((name, value) :: next :: others)) ++ 125 :: rest =
          spell (Value.quoted name) ++ 58 :: (spell value.chars ++
            44 :: (spell (Value.memberChars (next :: others)) ++ 125 :: rest)) := by
        simp only [Value.memberChars, spell_cons, spell_append, List.append_assoc]
        rfl
      rw [spelled]
      have one := (leads_name due name _).trans
        (leads_value value numeric.1 (.inl rfl)
          (ends_comma (spell (Value.memberChars (next :: others)) ++ 125 :: rest)))
      refine (one.trans (.of_token tokens_comma rfl rfl)).trans ?_
      exact leads_members (next :: others) numeric.2 (.inr rfl) (List.cons_ne_nil _ _)

end

/-- Whoever skips a value has skipped just this value. -/
theorem skipValue_chars {value : Value} (numeric : value.Numeric) (ends : Token.Ends rest)
    {left : List Token} (skipped : skipValue (tokens (spell value.chars ++ rest)) = .ok left) :
    left = tokens rest := by
  have reached := leads_value value numeric (.inl rfl) ends left skipped
  have stops : skipFrom ⟨.next, []⟩ (tokens rest) = .ok (tokens rest) := by
    cases tokens rest <;> rfl
  rw [stops] at reached
  exact (Except.ok.inj reached).symm

/-! ## Records -/

section Records

variable {α : Type} {name other : String} {field : Reader α} {value : Value}
  {members : List (String × Value)}

section Members

variable {tokens left : List Token} {found read : Option α}

theorem readMembers_of_error {flaw : Flaw}
    (taken : readMember name field found tokens = .error flaw) :
    readMembers name field found tokens = .error flaw := by
  unfold readMembers
  split <;> simp_all

theorem readMembers_of_comma
    (taken : readMember name field found tokens = .ok (read, .comma :: left)) :
    readMembers name field found tokens = readMembers name field read left := by
  conv => lhs; unfold readMembers
  split <;> simp_all

theorem readMembers_of_end
    (taken : readMember name field found tokens = .ok (read, .closeObject :: left)) :
    readMembers name field found tokens =
      read.elim (.error .mismatched) fun value => .ok (value, left) := by
  unfold readMembers
  split
  case h_3 closed =>
    rw [taken] at closed
    obtain ⟨rfl, same⟩ := Prod.mk.inj (Except.ok.inj closed)
    obtain rfl := (List.cons.inj same).2
    cases read <;> rfl
  all_goals simp_all

end Members

/-- A member of another name gives nothing. -/
theorem readMember_other (differs : other ≠ name) (numeric : value.Numeric)
    (ends : Token.Ends rest) {found read : Option α} {left : List Token}
    (taken : readMember name field found
      (tokens (spell (Value.quoted other) ++ 58 :: (spell value.chars ++ rest))) =
        .ok (read, left)) :
    read = found ∧ left = tokens rest := by
  rw [tokens_quoted, tokens_colon] at taken
  unfold readMember at taken
  dsimp only at taken
  rw [if_neg differs] at taken
  split at taken
  · rename_i skipped
    obtain ⟨rfl, rfl⟩ := Prod.mk.inj (Except.ok.inj taken)
    exact ⟨rfl, skipValue_chars numeric ends skipped⟩
  · cases taken

/-- An object in which no member has the name of the field gives no record. -/
theorem readMembers_unnamed (field : Reader α) (filled : members ≠ [])
    (differ : ∀ member ∈ members, member.1 ≠ name) (numeric : Value.NumericMembers members)
    (rest : Octets) :
    ∃ flaw, readMembers name field none
      (tokens (spell (Value.memberChars members) ++ 125 :: rest)) = .error flaw := by
  induction members with
  | nil => exact absurd rfl filled
  | cons member others inductionHypothesis =>
      obtain ⟨other, value⟩ := member
      have differs : other ≠ name := differ (other, value) List.mem_cons_self
      match others, inductionHypothesis with
      | [], _ =>
          have spelled : spell (Value.memberChars [(other, value)]) ++ 125 :: rest =
              spell (Value.quoted other) ++ 58 :: (spell value.chars ++ 125 :: rest) := by
            simp only [Value.memberChars, spell_cons, spell_append, List.append_assoc]
            rfl
          rw [spelled]
          cases taken : readMember name field none (tokens _) with
          | error flaw => exact ⟨flaw, readMembers_of_error taken⟩
          | ok member =>
              obtain ⟨read, left⟩ := member
              obtain ⟨rfl, rfl⟩ := readMember_other differs numeric.1 (ends_closeObject rest) taken
              rw [tokens_closeObject] at taken
              exact ⟨_, readMembers_of_end taken⟩
      | next :: others, inductionHypothesis =>
          have spelled :
              spell (Value.memberChars ((other, value) :: next :: others)) ++ 125 :: rest =
                spell (Value.quoted other) ++ 58 :: (spell value.chars ++
                  44 :: (spell (Value.memberChars (next :: others)) ++ 125 :: rest)) := by
            simp only [Value.memberChars, spell_cons, spell_append, List.append_assoc]
            rfl
          obtain ⟨flaw, fails⟩ := inductionHypothesis (List.cons_ne_nil _ _)
            (fun member mem => differ member (List.mem_cons_of_mem _ mem)) numeric.2
          rw [spelled]
          cases taken : readMember name field none (tokens _) with
          | error flaw => exact ⟨flaw, readMembers_of_error taken⟩
          | ok member =>
              obtain ⟨read, left⟩ := member
              obtain ⟨rfl, rfl⟩ := readMember_other differs numeric.1 (ends_comma _) taken
              rw [tokens_comma] at taken
              exact ⟨flaw, (readMembers_of_comma taken).trans fails⟩

/-- An object in which no member has the name of the field is not read as a record
with this field. -/
theorem readWhole_unnamed (differ : ∀ member ∈ members, member.1 ≠ name)
    (numeric : (Value.object members).Numeric) :
    ∃ flaw, readWhole name field (Utf8.encode (Value.object members).render) = .error flaw := by
  have spelled : Utf8.encode (Value.object members).render =
      123 :: (spell (Value.memberChars members) ++ 125 :: []) := by
    rw [encode_render]
    simp only [Value.chars, spell_cons, spell_append]
    rfl
  rw [readWhole, spelled, tokens_openObject]
  match members, differ, numeric with
  | [], _, _ =>
      have split : tokens (spell (Value.memberChars []) ++ 125 :: []) = [.closeObject] := by
        rw [Value.memberChars, spell_nil, List.nil_append, tokens_closeObject, tokens_nil]
      rw [split]
      exact ⟨_, rfl⟩
  | (other, value) :: others, differ, numeric =>
      obtain ⟨flaw, fails⟩ :=
        readMembers_unnamed field (List.cons_ne_nil _ _) differ numeric []
      obtain ⟨left, split⟩ : ∃ left,
          tokens (spell (Value.memberChars ((other, value) :: others)) ++ 125 :: []) =
            .string (.ok other) none :: left := by
        cases others <;>
          simp only [Value.memberChars, spell_append, List.append_assoc, tokens_quoted] <;>
          exact ⟨_, rfl⟩
      rw [split] at fails ⊢
      refine ⟨flaw, ?_⟩
      rw [readRecord, fails]
      · exact nofun
      · exact nofun

/-- An object whose only member is a text is read as the record with this text. -/
theorem readWhole_text (name text : String) :
    readWhole name Reader.text (Utf8.encode (Value.object [(name, .string text)]).render) =
      .ok text := by
  have spelled : Utf8.encode (Value.object [(name, .string text)]).render =
      123 :: (spell (Value.quoted name) ++ 58 :: (spell (Value.quoted text) ++ [125])) := by
    rw [encode_render]
    simp only [Value.chars, Value.memberChars, spell_cons, spell_append, List.append_assoc]
    rfl
  rw [readWhole, spelled, tokens_openObject, tokens_quoted, tokens_colon, tokens_quoted,
    tokens_closeObject, tokens_nil]
  have taken : readMember name Reader.text none
      [.string (.ok name) none, .colon, .string (.ok text) none, .closeObject] =
        .ok (some text, [.closeObject]) := by
    unfold readMember
    exact if_pos rfl
  rw [readRecord, readMembers_of_end taken]
  · rfl
  · exact nofun
  · exact nofun

end Records

end RingCache.Json
