import RingCache.Text.Utf8

/-!
# Texts and their octets

The octets of a text spell that text and no other: the reader takes the octets of a
character as this character, whatever stands after them (`piecesFrom_encodeChar`),
so that it reads the octets of a text piece by piece as they were written.
-/

namespace RingCache.Utf8

theorem toNat_charOfNat {code : Nat} (ascii : code ≤ 0x7F) : (Char.ofNat code).toNat = code := by
  have valid : code.isValidChar := .inl (by omega)
  rw [Char.ofNat, dif_pos valid]
  rfl

/-- A character of ASCII is one octet. -/
theorem encodeChar_ascii {character : Char} (ascii : character.toNat ≤ 0x7F) :
    String.utf8EncodeChar character = [UInt8.ofNat character.toNat] := by
  rw [String.utf8EncodeChar]
  exact if_pos ascii

/-- All octets of any other character are beyond ASCII. -/
theorem encodeChar_beyond {character : Char} (beyond : 0x7F < character.toNat) :
    ∀ octet ∈ String.utf8EncodeChar character, 0x80 ≤ octet.toNat := by
  have above : ¬ character.val.toNat ≤ 0x7F := Nat.not_le.mpr beyond
  intro octet mem
  rw [String.utf8EncodeChar, if_neg above] at mem
  split at mem
  · simp only [List.mem_cons, List.not_mem_nil, or_false] at mem
    rcases mem with rfl | rfl <;> rw [UInt8.toNat_ofNat'] <;> omega
  · split at mem
    · simp only [List.mem_cons, List.not_mem_nil, or_false] at mem
      rcases mem with rfl | rfl | rfl <;> rw [UInt8.toNat_ofNat'] <;> omega
    · simp only [List.mem_cons, List.not_mem_nil, or_false] at mem
      rcases mem with rfl | rfl | rfl | rfl <;> rw [UInt8.toNat_ofNat'] <;> omega

/-- A code point is below the surrogates or above them. -/
theorem codePoint_cases (character : Char) :
    character.toNat < 0xD800 ∨ 0xDFFF < character.toNat ∧ character.toNat < 0x110000 :=
  character.valid

/-- The first octet of two. -/
theorem ofLead?_two (lead : Nat) (above : 0xC2 ≤ lead) (below : lead ≤ 0xDF) :
    Started.ofLead? lead = some ⟨1, 0, 0x80, 0xBF, lead - 0xC0⟩ := by
  rw [Started.ofLead?, if_pos ⟨above, below⟩]

/-- The first octet of three, which takes a second one that makes no overlong form
and no surrogate. -/
theorem ofLead?_three (lead second : Nat) (above : 0xE0 ≤ lead) (below : lead ≤ 0xEF)
    (low : 0x80 ≤ second) (high : second ≤ 0xBF) (long : lead = 0xE0 → 0xA0 ≤ second)
    (single : lead = 0xED → second ≤ 0x9F) :
    ∃ started, Started.ofLead? lead = some started ∧ started.owed = 1 ∧
      started.bits = lead - 0xE0 ∧ started.low ≤ second ∧ second ≤ started.high := by
  rw [Started.ofLead?, if_neg (by omega)]
  by_cases first : lead = 0xE0
  · exact ⟨_, if_pos first, rfl, by rw [first], long first, high⟩
  · rw [if_neg first]
    by_cases surrogate : lead = 0xED
    · exact ⟨_, if_pos surrogate, rfl, by rw [surrogate], low, single surrogate⟩
    · rw [if_neg surrogate]
      exact ⟨_, if_pos ⟨by omega, below⟩, rfl, rfl, low, high⟩

/-- The first octet of four, which takes a second one that makes no overlong form
and no code point past the last. -/
theorem ofLead?_four (lead second : Nat) (above : 0xF0 ≤ lead) (below : lead ≤ 0xF4)
    (low : 0x80 ≤ second) (high : second ≤ 0xBF) (long : lead = 0xF0 → 0x90 ≤ second)
    (inside : lead = 0xF4 → second ≤ 0x8F) :
    ∃ started, Started.ofLead? lead = some started ∧ started.owed = 2 ∧
      started.bits = lead - 0xF0 ∧ started.low ≤ second ∧ second ≤ started.high := by
  rw [Started.ofLead?, if_neg (by omega), if_neg (by omega), if_neg (by omega),
    if_neg (by omega)]
  by_cases first : lead = 0xF0
  · exact ⟨_, if_pos first, rfl, by rw [first], long first, high⟩
  · rw [if_neg first]
    by_cases last : lead = 0xF4
    · exact ⟨_, if_pos last, rfl, by rw [last], low, inside last⟩
    · rw [if_neg last]
      exact ⟨_, if_pos ⟨by omega, by omega⟩, rfl, rfl, low, high⟩

/-- A first octet that owes further ones starts a character. -/
theorem piecesFrom_lead {octet : UInt8} {started : Started} (large : 0x80 ≤ octet.toNat)
    (lead : Started.ofLead? octet.toNat = some started) (rest : Octets) :
    piecesFrom none (octet :: rest) = piecesFrom (some started) rest := by
  rw [piecesFrom, if_neg (Nat.not_lt.mpr large), lead]

/-- The last octet that a character owes ends it. -/
theorem piecesFrom_last {octet : UInt8} {started : Started} (owes : started.owed = 0)
    (above : started.low ≤ octet.toNat) (below : octet.toNat ≤ started.high) (rest : Octets) :
    piecesFrom (some started) (octet :: rest) =
      .scalar (Char.ofNat (started.bits * 0x40 + (octet.toNat - 0x80))) ::
        piecesFrom none rest := by
  rw [piecesFrom, if_pos ⟨above, below⟩, owes]

/-- Any other octet that a character owes takes it further. -/
theorem piecesFrom_further {octet : UInt8} {started : Started} {owed : Nat}
    (owes : started.owed = owed + 1)
    (above : started.low ≤ octet.toNat) (below : octet.toNat ≤ started.high) (rest : Octets) :
    piecesFrom (some started) (octet :: rest) =
      piecesFrom (some ⟨started.read + 1, owed, 0x80, 0xBF,
        started.bits * 0x40 + (octet.toNat - 0x80)⟩) rest := by
  rw [piecesFrom, if_pos ⟨above, below⟩, owes]

theorem toNat_ofNat_of_lt (number : Nat) (small : number < 256) :
    (UInt8.ofNat number).toNat = number := by
  rw [UInt8.toNat_ofNat']
  exact Nat.mod_eq_of_lt small

variable {code : Nat}

/-- Two octets spell a code point. -/
theorem piecesFrom_two (long : 0x7F < code) (short : code ≤ 0x7FF) (rest : Octets) :
    piecesFrom none (UInt8.ofNat (code / 64 % 32 + 192) :: UInt8.ofNat (code % 64 + 128) :: rest) =
      .scalar (Char.ofNat code) :: piecesFrom none rest := by
  have first := toNat_ofNat_of_lt (code / 64 % 32 + 192) (by omega)
  have second := toNat_ofNat_of_lt (code % 64 + 128) (by omega)
  have lead := ofLead?_two (code / 64 % 32 + 192) (by omega) (by omega)
  rw [← first] at lead
  have spelled : (code / 64 % 32 + 192 - 0xC0) * 0x40 + (code % 64 + 128 - 0x80) = code := by
    omega
  rw [piecesFrom_lead (by omega) lead, piecesFrom_last rfl (by dsimp only; omega)
    (by dsimp only; omega), first, second, spelled]

/-- Three octets spell a code point that is no surrogate. -/
theorem piecesFrom_three (long : 0x7FF < code) (short : code ≤ 0xFFFF)
    (single : code < 0xD800 ∨ 0xDFFF < code) (rest : Octets) :
    piecesFrom none (UInt8.ofNat (code / 4096 % 16 + 224) ::
        UInt8.ofNat (code / 64 % 64 + 128) :: UInt8.ofNat (code % 64 + 128) :: rest) =
      .scalar (Char.ofNat code) :: piecesFrom none rest := by
  have first := toNat_ofNat_of_lt (code / 4096 % 16 + 224) (by omega)
  have second := toNat_ofNat_of_lt (code / 64 % 64 + 128) (by omega)
  have third := toNat_ofNat_of_lt (code % 64 + 128) (by omega)
  obtain ⟨started, lead, owes, bits, low, high⟩ :=
    ofLead?_three (code / 4096 % 16 + 224) (code / 64 % 64 + 128)
      (by omega) (by omega) (by omega) (by omega) (by omega) (by omega)
  rw [← first] at lead
  rw [← second] at low high
  have spelled : (started.bits * 0x40 + (code / 64 % 64 + 128 - 0x80)) * 0x40 +
      (code % 64 + 128 - 0x80) = code := by
    rw [bits]
    omega
  rw [piecesFrom_lead (by omega) lead, piecesFrom_further owes low high,
    piecesFrom_last rfl (by dsimp only; omega) (by dsimp only; omega), second, third, spelled]

/-- Four octets spell a code point. -/
theorem piecesFrom_four (long : 0xFFFF < code) (inside : code < 0x110000) (rest : Octets) :
    piecesFrom none (UInt8.ofNat (code / 262144 % 8 + 240) ::
        UInt8.ofNat (code / 4096 % 64 + 128) :: UInt8.ofNat (code / 64 % 64 + 128) ::
          UInt8.ofNat (code % 64 + 128) :: rest) =
      .scalar (Char.ofNat code) :: piecesFrom none rest := by
  have first := toNat_ofNat_of_lt (code / 262144 % 8 + 240) (by omega)
  have second := toNat_ofNat_of_lt (code / 4096 % 64 + 128) (by omega)
  have third := toNat_ofNat_of_lt (code / 64 % 64 + 128) (by omega)
  have fourth := toNat_ofNat_of_lt (code % 64 + 128) (by omega)
  obtain ⟨started, lead, owes, bits, low, high⟩ :=
    ofLead?_four (code / 262144 % 8 + 240) (code / 4096 % 64 + 128)
      (by omega) (by omega) (by omega) (by omega) (by omega) (by omega)
  rw [← first] at lead
  rw [← second] at low high
  have spelled : ((started.bits * 0x40 + (code / 4096 % 64 + 128 - 0x80)) * 0x40 +
      (code / 64 % 64 + 128 - 0x80)) * 0x40 + (code % 64 + 128 - 0x80) = code := by
    rw [bits]
    omega
  rw [piecesFrom_lead (by omega) lead, piecesFrom_further owes low high,
    piecesFrom_further rfl (by dsimp only; omega) (by dsimp only; omega),
    piecesFrom_last rfl (by dsimp only; omega) (by dsimp only; omega), second, third, fourth,
    spelled]

/-- The octets of a character are read as this character. -/
theorem piecesFrom_encodeChar (character : Char) (rest : Octets) :
    piecesFrom none (String.utf8EncodeChar character ++ rest) =
      .scalar character :: piecesFrom none rest := by
  have valid := codePoint_cases character
  have same := Char.ofNat_toNat character
  obtain ⟨code, isCode⟩ : ∃ code, character.toNat = code := ⟨_, rfl⟩
  have isVal : character.val.toNat = code := isCode
  rw [isCode] at valid same
  rw [String.utf8EncodeChar, isVal, ← same]
  split
  · have octet := toNat_ofNat_of_lt code (by omega)
    rw [List.cons_append, List.nil_append, piecesFrom, octet, if_pos (by omega)]
  · split
    · exact piecesFrom_two (by omega) (by omega) rest
    · split
      · exact piecesFrom_three (by omega) (by omega) (by omega) rest
      · exact piecesFrom_four (by omega) (by omega) rest

/-- The octets of a text are read as its characters. -/
theorem pieces_encode (text : String) : pieces (encode text) = text.toList.map .scalar := by
  have written : ∀ characters : List Char,
      piecesFrom none (characters.flatMap String.utf8EncodeChar) = characters.map .scalar := by
    intro characters
    induction characters with
    | nil => rfl
    | cons character rest inductionHypothesis =>
        rw [List.flatMap_cons, piecesFrom_encodeChar, inductionHypothesis, List.map_cons]
  exact written text.toList

/-- Characters without broken parts are the text. -/
theorem textOf_scalars (index : Nat) (characters : List Char) :
    textOf index (characters.map .scalar) = .ok characters := by
  induction characters generalizing index with
  | nil => rfl
  | cons character rest inductionHypothesis =>
      rw [List.map_cons, textOf, inductionHypothesis]
      rfl

/-- The octets of a text spell it. -/
@[simp] theorem decode_encode (text : String) : decode (encode text) = .ok text := by
  rw [decode, pieces_encode, textOf_scalars]
  exact congrArg Except.ok (String.ofList_toList)

end RingCache.Utf8
