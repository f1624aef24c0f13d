import RingCache.Proofs.Text.Base64

/-!
# The written forms and no others

Whatever the reader accepts is the written form of the octets that it reads
(`written_of_decodeOctets`): a symbol is read from its own octet only, groups of
four are written as they were read, and the last group is spelled by its symbols
and its padding. `Canonical` says without the writer which texts these are, and
`decode_succeeds_iff` that the reader accepts these and no others.
-/

namespace RingCache.Base64

/-! ## Symbols -/

/-- Among all octets, a value is read only from that of its symbol. -/
theorem symbolOctet_of_code : ∀ code < 256, ∀ value ∈ value? (UInt8.ofNat code),
    value < 64 ∧ symbolOctet value = UInt8.ofNat code := by decide +kernel

theorem symbolOctet_of_value? {octet : UInt8} {value : Nat} (reads : value? octet = some value) :
    value < 64 ∧ symbolOctet value = octet := by
  have only := symbolOctet_of_code octet.toNat octet.toNat_lt value
  rw [UInt8.ofNat_toNat] at only
  exact only reads

/-- What is read as values was written as their symbols. -/
theorem symbolOctets_of_values {octets : Octets} {offset : Nat} {read : List Nat}
    (reads : values offset octets = .ok read) :
    read.map symbolOctet = octets ∧ ∀ value ∈ read, value < 64 := by
  induction octets generalizing offset read with
  | nil =>
      obtain rfl : [] = read := Except.ok.inj reads
      simp
  | cons octet rest inductionHypothesis =>
      rw [values] at reads
      cases isValue : value? octet with
      | none => simp [isValue] at reads
      | some value =>
          obtain ⟨small, isOctet⟩ := symbolOctet_of_value? isValue
          cases others : values (offset + 1) rest with
          | error fault => simp [isValue, others, Except.map] at reads
          | ok later =>
              obtain ⟨spelled, allSmall⟩ := inductionHypothesis others
              obtain rfl : value :: later = read := by
                simpa [isValue, others, Except.map] using reads
              refine ⟨by simp [isOctet, spelled], ?_⟩
              simpa [small] using allSmall

/-! ## Groups of four -/

/-- Three octets that were put together from four values are written as these values. -/
theorem symbols_group {a b c d : Nat} (first : a < 64) (second : b < 64) (third : c < 64)
    (fourth : d < 64) (rest : Octets) :
    symbols (UInt8.ofNat (a * 4 + b / 16) :: UInt8.ofNat (b % 16 * 16 + c / 4) ::
        UInt8.ofNat (c % 4 * 64 + d) :: rest) =
      symbol a :: symbol b :: symbol c :: symbol d :: symbols rest := by
  have high := Utf8.toNat_ofNat_of_lt (a * 4 + b / 16) (by omega)
  have middle := Utf8.toNat_ofNat_of_lt (b % 16 * 16 + c / 4) (by omega)
  have low := Utf8.toNat_ofNat_of_lt (c % 4 * 64 + d) (by omega)
  let group := (a * 4 + b / 16) * 0x10000 + (b % 16 * 16 + c / 4) * 0x100 + (c % 4 * 64 + d)
  have isGroup : group =
    (a * 4 + b / 16) * 0x10000 + (b % 16 * 16 + c / 4) * 0x100 + (c % 4 * 64 + d) := rfl
  have isFirst : group / 0x40000 = a := by omega
  have isSecond : group / 0x1000 % 64 = b := by omega
  have isThird : group / 0x40 % 64 = c := by omega
  have isFourth : group % 64 = d := by omega
  simp only [symbols, high, middle, low]
  rw [← isGroup, isFirst, isSecond, isThird, isFourth]

/-- One octet is written in two symbols, the second with four zero bits. -/
theorem symbols_one {a b : Nat} (first : a < 64) (second : b < 64) (zeros : b % 16 = 0) :
    symbols [UInt8.ofNat (a * 4 + b / 16)] = [symbol a, symbol b, '=', '='] := by
  have octet := Utf8.toNat_ofNat_of_lt (a * 4 + b / 16) (by omega)
  have isFirst : (a * 4 + b / 16) / 4 = a := by omega
  have isSecond : (a * 4 + b / 16) % 4 * 16 = b := by omega
  simp only [symbols, octet, isFirst, isSecond]

/-- Two octets are written in three symbols, the third with two zero bits. -/
theorem symbols_two {a b c : Nat} (first : a < 64) (second : b < 64) (third : c < 64)
    (zeros : c % 4 = 0) :
    symbols [UInt8.ofNat (a * 4 + b / 16), UInt8.ofNat (b % 16 * 16 + c / 4)] =
      [symbol a, symbol b, symbol c, '='] := by
  have high := Utf8.toNat_ofNat_of_lt (a * 4 + b / 16) (by omega)
  have low := Utf8.toNat_ofNat_of_lt (b % 16 * 16 + c / 4) (by omega)
  have isFirst : ((a * 4 + b / 16) * 0x100 + (b % 16 * 16 + c / 4)) / 0x400 = a := by omega
  have isSecond : ((a * 4 + b / 16) * 0x100 + (b % 16 * 16 + c / 4)) / 0x10 % 64 = b := by omega
  have isThird : ((a * 4 + b / 16) * 0x100 + (b % 16 * 16 + c / 4)) % 0x10 * 4 = c := by omega
  simp only [symbols, high, low, isFirst, isSecond, isThird]

/-- Complete groups are written as they were read. -/
theorem written_ungroup (read : List Nat) (complete : read.length % 4 = 0)
    (small : ∀ value ∈ read, value < 64) :
    written (ungroup read) = read.map symbolOctet ∧ (ungroup read).length % 3 = 0 := by
  induction read using ungroup.induct with
  | case1 a b c d rest inductionHypothesis =>
      have shorter : rest.length % 4 = 0 := by
        simp only [List.length_cons] at complete
        omega
      obtain ⟨others, triples⟩ := inductionHypothesis shorter
        fun value mem => small value (by simp [mem])
      constructor
      · rw [ungroup, written, symbols_group (small a (by simp)) (small b (by simp))
          (small c (by simp)) (small d (by simp))]
        simpa [symbolOctet, written] using others
      · simp only [ungroup, List.length_cons]
        omega
  | case2 read noGroup =>
      rcases read with _ | ⟨a, _ | ⟨b, _ | ⟨c, _ | ⟨d, rest⟩⟩⟩⟩
      · exact ⟨rfl, rfl⟩
      · contradiction
      · contradiction
      · contradiction
      · exact absurd rfl (noGroup a b c d rest)

/-! ## The last group -/

/-- The octets of what has been read of the last group. -/
def Last.spelled (last : Last) : Octets :=
  last.read.map Prod.fst ++ List.replicate last.pads padding

/-- Every symbol stands beside its value. -/
def Last.Faithful (last : Last) : Prop :=
  ∀ pair ∈ last.read, value? pair.1 = some pair.2

theorem Last.Faithful.octet {last : Last} (faithful : last.Faithful) (octet : UInt8) (value : Nat)
    (listed : (octet, value) ∈ last.read) : value < 64 ∧ symbolOctet value = octet :=
  symbolOctet_of_value? (faithful _ listed)

/-- The last group is read without a loss: what was read spells its octets. -/
theorem readLast_spells {octets : Octets} {offset place : Nat} {last final : Last}
    (reads : readLast offset place last octets = .ok final) (faithful : last.Faithful) :
    final.spelled = last.spelled ++ octets ∧ final.Faithful := by
  induction octets generalizing place last with
  | nil =>
      obtain rfl : last = final := Except.ok.inj reads
      exact ⟨(List.append_nil _).symm, faithful⟩
  | cons octet rest inductionHypothesis =>
      rw [readLast] at reads
      by_cases isPadding : octet = padding
      · by_cases early : place < 2
        · simp [isPadding, early] at reads
        · rw [if_pos isPadding, if_neg early] at reads
          obtain ⟨spells, stays⟩ := inductionHypothesis reads faithful
          refine ⟨?_, stays⟩
          rw [spells, isPadding]
          simp [Last.spelled, List.replicate_succ', List.append_assoc]
      · by_cases padded : 0 < last.pads
        · simp [isPadding, padded] at reads
        · rw [if_neg isPadding, if_neg padded] at reads
          cases isValue : value? octet with
          | none => simp [isValue] at reads
          | some value =>
              simp only [isValue] at reads
              have noPads : last.pads = 0 := by omega
              have grown : Last.Faithful { last with read := last.read ++ [(octet, value)] } := by
                intro pair mem
                obtain listed | rfl : pair ∈ last.read ∨ pair = (octet, value) := by
                  simpa using mem
                · exact faithful pair listed
                · exact isValue
              obtain ⟨spells, stays⟩ := inductionHypothesis reads grown
              refine ⟨?_, stays⟩
              rw [spells]
              simp [Last.spelled, noPads, List.append_assoc]

/-- A group that closes is the written form of its octets: the symbols that it lacks are
padding, and the bits that it leaves out are zero. -/
theorem written_closeLast {offset : Nat} {last : Last} {octets : Octets}
    (closes : closeLast offset last = .ok octets) (faithful : last.Faithful)
    (four : last.spelled.length ≤ 4) : written octets = last.spelled := by
  obtain ⟨read, pads⟩ := last
  simp only [Last.spelled, List.length_append, List.length_map, List.length_replicate] at four
  simp only [closeLast] at closes
  by_cases short : read.length < 2
  · simp [short] at closes
  by_cases unfilled : (read.length + pads) % 4 ≠ 0
  · simp [short, unfilled] at closes
  rw [if_neg short, if_neg unfilled] at closes
  rcases read with _ | ⟨⟨first, a⟩, _ | ⟨⟨second, b⟩, _ | ⟨⟨third, c⟩, _ |
    ⟨⟨fourth, d⟩, _ | ⟨fifth, rest⟩⟩⟩⟩⟩
  · exact absurd (by simp) short
  · exact absurd (by simp) short
  · obtain rfl : pads = 2 := by
      simp only [List.length_cons, List.length_nil] at four unfilled
      omega
    obtain ⟨small, rfl⟩ := faithful.octet first a (by simp)
    obtain ⟨alsoSmall, rfl⟩ := faithful.octet second b (by simp)
    by_cases zeros : b % 16 = 0
    · simp only [zeros, ne_eq, not_true, if_false, Except.ok.injEq] at closes
      rw [← closes, written, symbols_one small alsoSmall zeros]
      rfl
    · simp [zeros] at closes
  · obtain rfl : pads = 1 := by
      simp only [List.length_cons, List.length_nil] at four unfilled
      omega
    obtain ⟨small, rfl⟩ := faithful.octet first a (by simp)
    obtain ⟨alsoSmall, rfl⟩ := faithful.octet second b (by simp)
    obtain ⟨smallToo, rfl⟩ := faithful.octet third c (by simp)
    by_cases zeros : c % 4 = 0
    · simp only [zeros, ne_eq, not_true, if_false, Except.ok.injEq] at closes
      rw [← closes, written, symbols_two small alsoSmall smallToo zeros]
      rfl
    · simp [zeros] at closes
  · obtain rfl : pads = 0 := by
      simp only [List.length_cons, List.length_nil] at four
      omega
    obtain ⟨small, rfl⟩ := faithful.octet first a (by simp)
    obtain ⟨alsoSmall, rfl⟩ := faithful.octet second b (by simp)
    obtain ⟨smallToo, rfl⟩ := faithful.octet third c (by simp)
    obtain ⟨alsoSmallToo, rfl⟩ := faithful.octet fourth d (by simp)
    obtain rfl := Except.ok.inj closes
    simp only [List.map_cons, List.map_nil, ungroup, written,
      symbols_group small alsoSmall smallToo alsoSmallToo]
    rfl
  · simp only [List.length_cons] at four
    omega

/-! ## Whole texts -/

/-- Text that is read is complete groups and a last group that closes. -/
theorem decodeOctets_cases {text octets : Octets} (reads : decodeOctets text = .ok octets)
    (filled : text ≠ []) :
    let offset := (text.length - 1) / 4 * 4
    ∃ body last tail, values 0 (text.take offset) = .ok body ∧
      readLast offset 0 {} (text.drop offset) = .ok last ∧ closeLast offset last = .ok tail ∧
      octets = ungroup body ++ tail := by
  intro offset
  have isOffset : offset = (text.length - 1) / 4 * 4 := rfl
  rw [decodeOctets] at reads
  cases stray : strayEnd? text with
  | some fault => simp [stray] at reads
  | none =>
      simp only [stray, List.isEmpty_iff, filled, if_false, ← isOffset] at reads
      cases isBody : values 0 (text.take offset) with
      | error fault => simp [isBody] at reads
      | ok body =>
          cases isLast : readLast offset 0 {} (text.drop offset) with
          | error fault => simp [isBody, isLast] at reads
          | ok last =>
              cases closes : closeLast offset last with
              | error fault => simp [isBody, isLast, closes, Except.map] at reads
              | ok tail =>
                  refine ⟨body, last, tail, rfl, rfl, closes, ?_⟩
                  simpa [isBody, isLast, closes, Except.map] using reads.symm

/-- What is read is what would be written. -/
theorem written_of_decodeOctets {text octets : Octets} (reads : decodeOctets text = .ok octets) :
    written octets = text := by
  by_cases empty : text = []
  · subst empty
    obtain rfl : [] = octets := Except.ok.inj reads
    rfl
  · have filled : 0 < text.length := List.length_pos_iff.mpr empty
    obtain ⟨body, last, tail, isBody, isLast, closes, rfl⟩ := decodeOctets_cases reads empty
    obtain ⟨isTaken, small⟩ := symbolOctets_of_values isBody
    have complete : body.length % 4 = 0 := by
      have taken := congrArg List.length isTaken
      rw [List.length_map, List.length_take] at taken
      omega
    obtain ⟨full, triples⟩ := written_ungroup body complete small
    obtain ⟨spells, faithful⟩ := readLast_spells isLast (by simp [Last.Faithful])
    have isDropped : last.spelled = text.drop ((text.length - 1) / 4 * 4) := spells
    have few : last.spelled.length ≤ 4 := by
      rw [isDropped, List.length_drop]
      omega
    calc written (ungroup body ++ tail)
        = written (ungroup body) ++ written tail := written_append _ _ triples
      _ = text.take ((text.length - 1) / 4 * 4) ++ text.drop ((text.length - 1) / 4 * 4) := by
          rw [full, isTaken, written_closeLast closes faithful few, isDropped]
      _ = text := List.take_append_drop _ _

/-- A text is read as octets exactly if it is their written form. -/
theorem decode_eq_ok_iff {text : String} {octets : Octets} :
    decode text = .ok octets ↔ text = encode octets := by
  constructor
  · intro reads
    have same : Utf8.decode (Utf8.encode (encode octets)) = Utf8.decode (Utf8.encode text) := by
      rw [encode_encode, written_of_decodeOctets reads]
    simpa using same.symm
  · rintro rfl
    exact decode_encode octets

/-! ## The texts that are read -/

/-- The symbols, by their values. -/
def alphabet : List Char :=
  "ABCDEFGHIJKLMNOPQRSTUVWXYZabcdefghijklmnopqrstuvwxyz0123456789+/".toList

/-- Groups of four symbols, of which the last may end in padding; the symbol before
the padding then has no bit set that belongs to no octet. -/
inductive Canonical : List Char → Prop
  | nothing : Canonical []
  | one (first second : Char) (isFirst : first ∈ alphabet) (isSecond : second ∈ "AQgw".toList) :
      Canonical [first, second, '=', '=']
  | two (first second third : Char) (isFirst : first ∈ alphabet) (isSecond : second ∈ alphabet)
      (isThird : third ∈ "AEIMQUYcgkosw048".toList) : Canonical [first, second, third, '=']
  | group (first second third fourth : Char) (rest : List Char) (isFirst : first ∈ alphabet)
      (isSecond : second ∈ alphabet) (isThird : third ∈ alphabet) (isFourth : fourth ∈ alphabet)
      (others : Canonical rest) : Canonical (first :: second :: third :: fourth :: rest)

theorem alphabet_eq : alphabet = (List.range 64).map symbol := by decide +kernel

theorem four_zeros_eq : "AQgw".toList = (List.range 4).map fun high => symbol (high * 16) := by
  decide +kernel

theorem two_zeros_eq :
    "AEIMQUYcgkosw048".toList = (List.range 16).map fun high => symbol (high * 4) := by
  decide +kernel

theorem mem_alphabet {character : Char} :
    character ∈ alphabet ↔ ∃ value < 64, symbol value = character := by
  rw [alphabet_eq, List.mem_map]
  simp

theorem symbol_mem_alphabet {value : Nat} (small : value < 64) : symbol value ∈ alphabet :=
  mem_alphabet.mpr ⟨value, small, rfl⟩

theorem mem_four_zeros {character : Char} :
    character ∈ "AQgw".toList ↔ ∃ high < 4, symbol (high * 16) = character := by
  rw [four_zeros_eq, List.mem_map]
  simp

theorem mem_two_zeros {character : Char} :
    character ∈ "AEIMQUYcgkosw048".toList ↔ ∃ high < 16, symbol (high * 4) = character := by
  rw [two_zeros_eq, List.mem_map]
  simp

/-- Written forms are canonical. -/
theorem canonical_symbols (octets : Octets) : Canonical (symbols octets) := by
  induction octets using symbols.induct with
  | case1 a b c rest inductionHypothesis =>
      have small := a.toNat_lt
      have alsoSmall := b.toNat_lt
      have smallToo := c.toNat_lt
      apply Canonical.group
      · exact symbol_mem_alphabet (by omega)
      · exact symbol_mem_alphabet (by omega)
      · exact symbol_mem_alphabet (by omega)
      · exact symbol_mem_alphabet (by omega)
      · exact inductionHypothesis
  | case2 a b =>
      have small := a.toNat_lt
      have alsoSmall := b.toNat_lt
      apply Canonical.two
      · exact symbol_mem_alphabet (by omega)
      · exact symbol_mem_alphabet (by omega)
      · exact mem_two_zeros.mpr ⟨_, by omega, rfl⟩
  | case3 a =>
      have small := a.toNat_lt
      apply Canonical.one
      · exact symbol_mem_alphabet (by omega)
      · exact mem_four_zeros.mpr ⟨_, by omega, rfl⟩
  | case4 => exact .nothing

/-- Canonical texts are written forms. -/
theorem exists_symbols {characters : List Char} (canonical : Canonical characters) :
    ∃ octets, symbols octets = characters := by
  induction canonical with
  | nothing => exact ⟨[], rfl⟩
  | one first second isFirst isSecond =>
      obtain ⟨a, small, rfl⟩ := mem_alphabet.mp isFirst
      obtain ⟨high, alsoSmall, rfl⟩ := mem_four_zeros.mp isSecond
      exact ⟨_, symbols_one small (by omega) (Nat.mul_mod_left high 16)⟩
  | two first second third isFirst isSecond isThird =>
      obtain ⟨a, small, rfl⟩ := mem_alphabet.mp isFirst
      obtain ⟨b, alsoSmall, rfl⟩ := mem_alphabet.mp isSecond
      obtain ⟨high, smallToo, rfl⟩ := mem_two_zeros.mp isThird
      exact ⟨_, symbols_two small alsoSmall (by omega) (Nat.mul_mod_left high 4)⟩
  | group first second third fourth rest isFirst isSecond isThird isFourth _ inductionHypothesis =>
      obtain ⟨a, small, rfl⟩ := mem_alphabet.mp isFirst
      obtain ⟨b, alsoSmall, rfl⟩ := mem_alphabet.mp isSecond
      obtain ⟨c, smallToo, rfl⟩ := mem_alphabet.mp isThird
      obtain ⟨d, alsoSmallToo, rfl⟩ := mem_alphabet.mp isFourth
      obtain ⟨octets, rfl⟩ := inductionHypothesis
      exact ⟨_, symbols_group small alsoSmall smallToo alsoSmallToo octets⟩

/-- Canonical texts, and no others, are read as octets. -/
theorem decode_succeeds_iff {text : String} :
    (∃ octets, decode text = .ok octets) ↔ Canonical text.toList := by
  constructor
  · rintro ⟨octets, reads⟩
    rw [decode_eq_ok_iff.mp reads, encode, String.toList_ofList]
    exact canonical_symbols octets
  · intro canonical
    obtain ⟨octets, spelled⟩ := exists_symbols canonical
    refine ⟨octets, decode_eq_ok_iff.mpr ?_⟩
    rw [encode, spelled, String.ofList_toList]

end RingCache.Base64
