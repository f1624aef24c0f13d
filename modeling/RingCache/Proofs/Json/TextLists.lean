import RingCache.Proofs.Json.Skipping

/-!
# Lists of texts

The compact text of a list of texts is read as this list, whatever the texts are (`readTexts_chars`).
So a record with such a field is read from every object that has it, also after a note of another
name, which is skipped (`readRecord_noted`).
-/

namespace RingCache.Json

variable {name noteName : String} {rest : Octets}

/-- The elements of a list of texts are read up to the end of the list. -/
theorem readElements_chars (first : String) (others : List String) (rest : Octets) :
    readElements (tokens (spell (Value.elementChars ((first :: others).map .string)) ++ 93 :: rest)) =
      .ok (first :: others, tokens rest) := by
  induction others generalizing first with
  | nil =>
      have spelled : spell (Value.elementChars ([first].map .string)) ++ 93 :: rest =
          spell (Value.quoted first) ++ 93 :: rest := rfl
      rw [spelled, tokens_quoted, tokens_closeArray, readElements]
  | cons next others inductionHypothesis =>
      have spelled : spell (Value.elementChars ((first :: next :: others).map .string)) ++ 93 :: rest =
          spell (Value.quoted first) ++
            44 :: (spell (Value.elementChars ((next :: others).map .string)) ++ 93 :: rest) := by
        simp only [List.map_cons, Value.elementChars, Value.chars, spell_cons, spell_append,
          List.append_assoc]
        rfl
      rw [spelled, tokens_quoted, tokens_comma, readElements, inductionHypothesis]

/-- A list of texts is read as it was written. -/
theorem readTexts_chars (texts : List String) (rest : Octets) :
    readTexts (tokens (spell (Value.strings texts).chars ++ rest)) = .ok (texts, tokens rest) := by
  have spelled : spell (Value.strings texts).chars ++ rest =
      91 :: (spell (Value.elementChars (texts.map .string)) ++ 93 :: rest) := by
    simp only [Value.strings, Value.chars, spell_cons, spell_append, List.append_assoc]
    rfl
  rw [spelled, tokens_openArray]
  cases texts with
  | nil =>
      rw [List.map_nil, Value.elementChars, spell_nil, List.nil_append, tokens_closeArray, readTexts]
  | cons first others =>
      have read := readElements_chars first others rest
      rw [readTexts, read]
      intro left closes
      rw [closes, readElements] at read
      · cases read
      all_goals exact nofun

/-- A member of the field's own name gives what the field is read as. -/
theorem readMember_own {α : Type} {field : Reader α} {value : α} {behind left : List Token}
    (read : field.read behind = .ok (value, left)) :
    readMember name field none (.string (.ok name) none :: .colon :: behind) =
      .ok (some value, left) := by
  unfold readMember
  refine (if_pos rfl).trans ?_
  simp only [read]

/-- A record with a list of texts is read from an object that has a note before the list. -/
theorem readRecord_noted (differs : noteName ≠ name) (note : String) (texts : List String) :
    readRecord name Reader.texts (tokens (Utf8.encode
      (Value.object [(noteName, .string note), (name, .strings texts)]).render)) =
        .ok (texts, []) := by
  have spelled : Utf8.encode
      (Value.object [(noteName, .string note), (name, .strings texts)]).render =
        123 :: (spell (Value.quoted noteName) ++ 58 :: (spell (Value.quoted note) ++
          44 :: (spell (Value.quoted name) ++ 58 :: (spell (Value.strings texts).chars ++ [125])))) := by
    rw [encode_render]
    simp only [Value.chars, Value.memberChars, spell_cons, spell_append, List.append_assoc]
    rfl
  have skipsNote : ∀ left, readMember name Reader.texts none
      (.string (.ok noteName) none :: .colon :: .string (.ok note) none :: .comma :: left) =
        .ok (none, .comma :: left) := by
    intro left
    unfold readMember
    exact if_neg differs
  have readsTexts : readMember name Reader.texts none
      (.string (.ok name) none :: .colon :: tokens (spell (Value.strings texts).chars ++ [125])) =
        .ok (some texts, [.closeObject]) := by
    refine readMember_own ((readTexts_chars texts [125]).trans ?_)
    rw [tokens_closeObject, tokens_nil]
  rw [spelled, tokens_openObject, tokens_quoted, tokens_colon, tokens_quoted, tokens_comma,
    tokens_quoted, tokens_colon, readRecord, readMembers_of_comma (skipsNote _),
    readMembers_of_end readsTexts]
  · rfl
  · intro ends
    cases ends
  · intro left closes
    cases closes

end RingCache.Json
