import RingCache.Proofs.Text.Percent
import RingCache.Proofs.Url.Origins
import RingCache.Url.Path

/-!
# Written texts as segments of a path

A path of written texts keeps its segments, for no character of a written text ends
a segment or is escaped. Only the two texts that are dot segments themselves are
written as dot segments (`isDot_encode`, `isDoubleDot_encode`): these, and no others,
are resolved.
-/

namespace RingCache.Path

/-! ## Dot segments -/

theorem toLower_cases (character : Char) :
    character.toLower = character ∨
      (65 ≤ character.toNat ∧ character.toNat ≤ 90 ∧
        character.toLower.toNat = character.toNat + 32) := by
  unfold Char.toLower
  split
  · rename_i upper
    have above : 65 ≤ character.toNat := UInt32.le_iff_toNat_le.mp upper.1
    have below : character.toNat ≤ 90 := UInt32.le_iff_toNat_le.mp upper.2
    refine .inr ⟨above, below, ?_⟩
    have raised : (character.val + ('a'.val - 'A'.val)).toNat =
        (character.val.toNat + 32) % 4294967296 := UInt32.toNat_add _ _
    exact raised.trans (Nat.mod_eq_of_lt (by
      have same : character.val.toNat = character.toNat := rfl
      omega))
  · exact .inl rfl

theorem eq_of_toLower {character lower : Char} (same : character.toLower = lower)
    (noLetter : lower.toNat < 97) : character = lower := by
  rcases toLower_cases character with kept | ⟨above, below, raised⟩
  · rw [← same, kept]
  · rw [same] at raised
    omega

theorem eq_of_toLower_e {character : Char} (same : character.toLower = 'e') :
    character = 'e' ∨ character = 'E' := by
  rcases toLower_cases character with kept | ⟨above, below, raised⟩
  · exact .inl (kept ▸ same)
  · rw [same] at raised
    have lower : ('e' : Char).toNat = 101 := rfl
    have upper : ('E' : Char).toNat = 69 := rfl
    exact .inr (Char.toNat_inj.mp (by omega))

/-- The ways to write a dot. -/
def dots : List (List Char) :=
  [['.'], ['%', '2', 'e'], ['%', '2', 'E']]

variable {segment rest : List Char}

theorem plain_dot (lowered : segment.map Char.toLower = '.' :: rest) :
    ∃ dot ∈ dots, ∃ others, segment = dot ++ others ∧ others.map Char.toLower = rest := by
  obtain ⟨point, others, rfl, isPoint, lowers⟩ := List.map_eq_cons_iff.mp lowered
  obtain rfl := eq_of_toLower isPoint (by decide)
  exact ⟨['.'], by decide, others, rfl, lowers⟩

theorem escaped_dot (lowered : segment.map Char.toLower = '%' :: '2' :: 'e' :: rest) :
    ∃ dot ∈ dots, ∃ others, segment = dot ++ others ∧ others.map Char.toLower = rest := by
  obtain ⟨percent, afterPercent, rfl, isPercent, lowered⟩ := List.map_eq_cons_iff.mp lowered
  obtain ⟨two, afterTwo, rfl, isTwo, lowered⟩ := List.map_eq_cons_iff.mp lowered
  obtain ⟨letter, others, rfl, isLetter, lowers⟩ := List.map_eq_cons_iff.mp lowered
  obtain rfl := eq_of_toLower isPercent (by decide)
  obtain rfl := eq_of_toLower isTwo (by decide)
  rcases eq_of_toLower_e isLetter with rfl | rfl
  · exact ⟨['%', '2', 'e'], by decide, others, rfl, lowers⟩
  · exact ⟨['%', '2', 'E'], by decide, others, rfl, lowers⟩

theorem lowered_of_mem {texts : List String}
    (listed : texts.contains (String.ofList (segment.map Char.toLower))) :
    segment.map Char.toLower ∈ texts.map String.toList := by
  have mem := @List.mem_map_of_mem _ _ _ _ String.toList (List.contains_iff_mem.mp listed)
  rwa [String.toList_ofList] at mem

/-- Nothing is left of a segment whose dots are all read. -/
theorem eq_of_lowered_nil {dot others : List Char} (split : segment = dot ++ others)
    (nothing : others.map Char.toLower = []) : segment = dot := by
  rw [split, List.map_eq_nil_iff.mp nothing, List.append_nil]

/-- A dot segment is written in one of the ways to write a dot. -/
theorem mem_dots_of_isDot (isDot : isDot segment) : segment ∈ dots := by
  have lowered : segment.map Char.toLower ∈ [['.'], ['%', '2', 'e']] := lowered_of_mem isDot
  simp only [List.mem_cons, List.not_mem_nil, or_false] at lowered
  obtain ⟨dot, isWritten, others, split, nothing⟩ := lowered.elim plain_dot escaped_dot
  exact eq_of_lowered_nil split nothing ▸ isWritten

/-- A double dot is two dots, each written in one of these ways. -/
theorem exists_dots_of_isDoubleDot (isDoubleDot : isDoubleDot segment) :
    ∃ one ∈ dots, ∃ other ∈ dots, segment = one ++ other := by
  have lowered : segment.map Char.toLower ∈ [['.', '.'], ['.', '%', '2', 'e'],
      ['%', '2', 'e', '.'], ['%', '2', 'e', '%', '2', 'e']] := lowered_of_mem isDoubleDot
  obtain ⟨one, oneWritten, others, split, left⟩ : ∃ one ∈ dots, ∃ others,
      segment = one ++ others ∧ (others.map Char.toLower = ['.'] ∨
        others.map Char.toLower = ['%', '2', 'e']) := by
    simp only [List.mem_cons, List.not_mem_nil, or_false] at lowered
    rcases lowered with plain | plain | escaped | escaped
    · obtain ⟨dot, isWritten, others, split, left⟩ := plain_dot plain
      exact ⟨dot, isWritten, others, split, .inl left⟩
    · obtain ⟨dot, isWritten, others, split, left⟩ := plain_dot plain
      exact ⟨dot, isWritten, others, split, .inr left⟩
    · obtain ⟨dot, isWritten, others, split, left⟩ := escaped_dot escaped
      exact ⟨dot, isWritten, others, split, .inl left⟩
    · obtain ⟨dot, isWritten, others, split, left⟩ := escaped_dot escaped
      exact ⟨dot, isWritten, others, split, .inr left⟩
  obtain ⟨other, otherWritten, nothing, rest, ended⟩ := left.elim plain_dot escaped_dot
  exact ⟨one, oneWritten, other, otherWritten, by rw [split, eq_of_lowered_nil rest ended]⟩

/-- Only a dot is written as a dot segment. -/
theorem isDot_encode (text : String) : isDot (Percent.encode text).toList ↔ text = "." := by
  constructor
  · intro dotted
    have spelled : ∀ dot ∈ dots, Percent.decode (String.ofList dot) = .ok "." := by
      decide
    have decoded := spelled _ (mem_dots_of_isDot dotted)
    rw [String.ofList_toList, Percent.decode_encode] at decoded
    exact Except.ok.inj decoded
  · rintro rfl
    decide

/-- Only a double dot is written as a double dot. -/
theorem isDoubleDot_encode (text : String) :
    isDoubleDot (Percent.encode text).toList ↔ text = ".." := by
  constructor
  · intro dotted
    have spelled : ∀ one ∈ dots, ∀ other ∈ dots,
        Percent.decode (String.ofList (one ++ other)) = .ok ".." := by
      decide
    obtain ⟨one, oneMem, other, otherMem, split⟩ := exists_dots_of_isDoubleDot dotted
    have decoded := spelled one oneMem other otherMem
    rw [← split, String.ofList_toList, Percent.decode_encode] at decoded
    exact Except.ok.inj decoded
  · rintro rfl
    decide

/-! ## Segments -/

/-- Whether a segment is made of characters that stand in written texts. -/
def IsWritten (segment : List Char) : Prop :=
  ∀ character ∈ segment, Percent.isWritten character

theorem isWritten_encode (text : String) : IsWritten (Percent.encode text).toList :=
  fun _ mem => Percent.isWritten_of_mem mem

/-- A written text holds characters of ASCII. -/
theorem code_of_isWritten {character : Char} (isWritten : Percent.isWritten character) :
    character.toNat < 128 := by
  rw [Percent.isWritten, Bool.or_eq_true] at isWritten
  rcases isWritten with alphanumeric | mark
  · unfold Char.isAlphanum Char.isAlpha Char.isUpper Char.isLower Char.isDigit at alphanumeric
    simp only [Bool.or_eq_true, Bool.and_eq_true, decide_eq_true_eq, UInt32.le_iff_toNat_le,
      ge_iff_le] at alphanumeric
    have code : character.toNat = character.val.toNat := rfl
    have bounds : 'Z'.val.toNat = 90 ∧ 'z'.val.toNat = 122 ∧ '9'.val.toNat = 57 := ⟨rfl, rfl, rfl⟩
    omega
  · have small : ∀ other ∈ ['-', '.', '_', '~', '%'], other.toNat < 128 := by simp
    exact small character (List.contains_iff_mem.mp mark)

/-- No character of a written text means anything in a path. -/
theorem plain_of_isWritten {character : Char} (isWritten : Percent.isWritten character) :
    (character ≠ '/' ∧ character ≠ '\\' ∧ character ≠ ':' ∧ character ≠ '|') ∧
      Url.isPathChar character ∧ Escape.inPath character = false ∧
      0x20 ≤ character.toNat ∧ character.toNat ≤ 0x7E := by
  have checked : ∀ code < 128, Percent.isWritten (Char.ofNat code) →
      (Char.ofNat code ≠ '/' ∧ Char.ofNat code ≠ '\\' ∧ Char.ofNat code ≠ ':' ∧
          Char.ofNat code ≠ '|') ∧
        Url.isPathChar (Char.ofNat code) ∧ Escape.inPath (Char.ofNat code) = false ∧
        0x20 ≤ (Char.ofNat code).toNat ∧ (Char.ofNat code).toNat ≤ 0x7E := by
    decide +kernel
  have found := checked character.toNat (code_of_isWritten isWritten)
  rw [Char.ofNat_toNat] at found
  exact found isWritten

/-- Segments with a slash before each. -/
def joined (segments : List (List Char)) : List Char :=
  segments.flatMap ('/' :: ·)

variable {segments : List (List Char)}

theorem joined_eq_intercalate (segments : List (List Char)) :
    joined segments = ['/'].intercalate ([] :: segments) := by
  induction segments with
  | nil => rfl
  | cons segment rest inductionHypothesis =>
      rw [List.intercalate_cons_cons, List.nil_append]
      cases rest with
      | nil => simp [joined]
      | cons next others =>
          rw [List.intercalate_cons_cons, List.nil_append] at inductionHypothesis
          rw [List.intercalate_cons_cons, List.append_assoc, ← inductionHypothesis]
          rfl

theorem mem_joined {character : Char} (mem : character ∈ joined segments) :
    character = '/' ∨ ∃ segment ∈ segments, character ∈ segment := by
  obtain ⟨segment, listed, mem⟩ := List.mem_flatMap.mp mem
  exact (List.mem_cons.mp mem).imp id fun inside => ⟨segment, listed, inside⟩

/-- Segments without slashes are what a path is split into. -/
theorem splitOn_joined (plain : ∀ segment ∈ segments, '/' ∉ segment) :
    (joined segments).splitOn '/' = [] :: segments := by
  rw [joined_eq_intercalate]
  refine List.splitOn_intercalate '/' (fun segment mem => ?_) (List.cons_ne_nil _ _)
  rcases List.mem_cons.mp mem with rfl | listed
  · exact List.not_mem_nil
  · exact plain segment listed

theorem noSlash_written (written : ∀ segment ∈ segments, IsWritten segment) :
    ∀ segment ∈ segments, '/' ∉ segment :=
  fun segment mem slash => (plain_of_isWritten (written segment mem '/' slash)).1.1 rfl

/-- Written texts are the segments of the path that is made of them. -/
theorem segments_joined (filled : segments ≠ [])
    (written : ∀ segment ∈ segments, IsWritten segment) :
    Path.segments true ((joined segments).drop 1) = segments := by
  obtain ⟨first, rest, rfl⟩ := List.exists_cons_of_ne_nil filled
  have same : ∀ c ∈ first ++ joined rest, (if true && c == '\\' then '/' else c) = c := by
    intro c mem
    have noBackslash : c ≠ '\\' := by
      rcases List.mem_append.mp mem with inFirst | behind
      · exact (plain_of_isWritten (written first List.mem_cons_self c inFirst)).1.2.1
      · rcases mem_joined behind with rfl | ⟨segment, listed, inside⟩
        · decide
        · exact (plain_of_isWritten
            (written segment (List.mem_cons_of_mem _ listed) c inside)).1.2.1
    simp [noBackslash]
  have isIntercalated : first ++ joined rest = ['/'].intercalate (first :: rest) := by
    have whole := joined_eq_intercalate (first :: rest)
    rw [List.intercalate_cons_cons, List.nil_append] at whole
    exact (List.cons.inj whole).2
  have behind : (joined (first :: rest)).drop 1 = first ++ joined rest := rfl
  rw [behind, Path.segments, List.map_congr_left same, List.map_id', isIntercalated]
  exact List.splitOn_intercalate '/' (noSlash_written written) (List.cons_ne_nil _ _)

/-- Nothing in a written text is escaped. -/
theorem escape_written (isWritten : IsWritten segment) :
    Escape.all Escape.inPath segment = segment := by
  have kept : ∀ c ∈ segment, (if c.toNat < 0x20 || 0x7E < c.toNat || Escape.inPath c then
      (String.utf8EncodeChar c).flatMap Percent.escape else [c]) = [c] := by
    intro c mem
    obtain ⟨_, _, noEscape, above, below⟩ := plain_of_isWritten (isWritten c mem)
    rw [if_neg (by simp [noEscape]; omega)]
  rw [Escape.all, List.flatMap_congr kept]
  exact List.flatMap_singleton' segment

/-- The path of written texts stands as it is. -/
theorem text_written (written : ∀ segment ∈ segments, IsWritten segment) :
    text segments = String.ofList (joined segments) := by
  rw [text, joined, List.flatMap_congr fun segment mem => by
    rw [escape_written (written segment mem)]]

/-- A written text is no drive. -/
theorem startsWithDrive_written (isWritten : IsWritten segment) : startsWithDrive segment = false := by
  have noPair : ∀ letter, ∀ mark ∈ segment, isDrivePair letter mark = false := by
    intro letter mark mem
    obtain ⟨_, _, noColon, noBar⟩ := (plain_of_isWritten (isWritten mark mem)).1
    simp [isDrivePair, noColon, noBar]
  unfold startsWithDrive
  split
  · exact noPair _ _ (by simp)
  · exact noPair _ _ (by simp)
  · rfl

/-! ## Resolving -/

/-- What is left of a path of three segments, of which the first is no dot segment. -/
def resolved (first second third : List Char) : List (List Char) :=
  if isDoubleDot second then
    if isDoubleDot third || isDot third then [[]] else [third]
  else if isDot second then
    if isDoubleDot third then [[]] else if isDot third then [first, []] else [first, third]
  else if isDoubleDot third then [first, []]
  else if isDot third then [first, second, []]
  else [first, second, third]

/-- Dot segments are resolved one after the other, and no drive holds them up. -/
theorem resolve_three {first second third : List Char} (noDot : isDot first = false)
    (noDoubleDot : isDoubleDot first = false) (noDrive : startsWithDrive first = false)
    (noDriveSecond : startsWithDrive second = false) :
    resolve false [first, second, third] = resolved first second third := by
  simp only [resolve, resolveFrom, noDot, noDoubleDot, enter, Bool.false_and]
  rw [resolved]
  cases isDoubleDot second <;> cases isDot second <;> cases isDoubleDot third <;>
    cases isDot third <;> simp [leave, noDrive, noDriveSecond]

end RingCache.Path
