import RingCache.Proofs.Text.Utf8
import RingCache.Text.Base64

/-!
# Reading written forms

The octets in a written form are those that it was written for. A written form is
one of complete triples followed by one of the one to three octets that are left;
the reader takes the symbols of the first part four by four (`values_written`) and
the last four symbols one by one (`readLast_written`).
-/

namespace RingCache.Base64

/-- The octets of the written form of octets. -/
def written (octets : Octets) : Octets :=
  (symbols octets).map fun symbol => UInt8.ofNat symbol.toNat

/-- The octet of the symbol of a value. -/
def symbolOctet (value : Nat) : UInt8 :=
  UInt8.ofNat (symbol value).toNat

theorem symbol_ascii : ∀ value < 64, (symbol value).toNat ≤ 0x7F := by decide

theorem value?_symbolOctet : ∀ value < 64, value? (symbolOctet value) = some value := by decide

theorem symbolOctet_ne_padding : ∀ value < 64, symbolOctet value ≠ padding := by decide

/-- Every written symbol is a character of ASCII. -/
theorem symbols_ascii : ∀ octets, ∀ symbol ∈ symbols octets, symbol.toNat ≤ 0x7F
  | [], _, mem => nomatch mem
  | [a], symbol, mem => by
      have small := a.toNat_lt
      simp only [symbols, List.mem_cons, List.not_mem_nil, or_false] at mem
      rcases mem with rfl | rfl | rfl | rfl
      · exact symbol_ascii _ (by omega)
      · exact symbol_ascii _ (by omega)
      · decide
      · decide
  | [a, b], symbol, mem => by
      have small := a.toNat_lt
      have alsoSmall := b.toNat_lt
      simp only [symbols, List.mem_cons, List.not_mem_nil, or_false] at mem
      rcases mem with rfl | rfl | rfl | rfl
      · exact symbol_ascii _ (by omega)
      · exact symbol_ascii _ (by omega)
      · exact symbol_ascii _ (by omega)
      · decide
  | a :: b :: c :: rest, symbol, mem => by
      have small := a.toNat_lt
      have alsoSmall := b.toNat_lt
      have smallToo := c.toNat_lt
      simp only [symbols, List.mem_cons] at mem
      rcases mem with rfl | rfl | rfl | rfl | later
      · exact symbol_ascii _ (by omega)
      · exact symbol_ascii _ (by omega)
      · exact symbol_ascii _ (by omega)
      · exact symbol_ascii _ (by omega)
      · exact symbols_ascii rest symbol later

theorem encode_encode (octets : Octets) : Utf8.encode (encode octets) = written octets := by
  rw [encode, Utf8.encode, String.toList_ofList, written]
  have ascii := symbols_ascii octets
  generalize symbols octets = characters at ascii
  induction characters with
  | nil => rfl
  | cons first rest inductionHypothesis =>
      rw [List.flatMap_cons, List.map_cons, Utf8.encodeChar_ascii (ascii first List.mem_cons_self),
        inductionHypothesis fun other mem => ascii other (List.mem_cons_of_mem _ mem)]
      rfl

/-- Without a triple, complete triples are left. -/
theorem shorter {a b c : UInt8} {full : Octets}
    (complete : (a :: b :: c :: full).length % 3 = 0) : full.length % 3 = 0 := by
  simp only [List.length_cons] at complete
  omega

/-- Complete triples are written on their own. -/
theorem written_append : ∀ (full : Octets) (last : Octets), full.length % 3 = 0 →
    written (full ++ last) = written full ++ written last
  | [], last, _ => rfl
  | [_], _, complete => nomatch complete
  | [_, _], _, complete => nomatch complete
  | a :: b :: c :: full, last, complete => by
      have others := written_append full last (shorter complete)
      simp only [written, List.cons_append, symbols, List.map_cons] at others ⊢
      rw [others]

theorem length_written : ∀ full : Octets, full.length % 3 = 0 → (written full).length % 4 = 0
  | [], _ => rfl
  | [_], complete => nomatch complete
  | [_, _], complete => nomatch complete
  | a :: b :: c :: full, complete => by
      have others := length_written full (shorter complete)
      simp only [written, symbols, List.map_cons, List.length_cons] at others ⊢
      omega

/-- The four values of three octets are read as these octets. -/
theorem ungroup_triple (a b c : UInt8) (rest : List Nat) :
    let group := a.toNat * 0x10000 + b.toNat * 0x100 + c.toNat
    ungroup (group / 0x40000 :: group / 0x1000 % 64 :: group / 0x40 % 64 :: group % 64 :: rest) =
      a :: b :: c :: ungroup rest := by
  intro group
  have isGroup : group = a.toNat * 0x10000 + b.toNat * 0x100 + c.toNat := rfl
  have small := a.toNat_lt
  have alsoSmall := b.toNat_lt
  have smallToo := c.toNat_lt
  have first : group / 0x40000 * 4 + group / 0x1000 % 64 / 16 = a.toNat := by omega
  have second : group / 0x1000 % 64 % 16 * 16 + group / 0x40 % 64 / 4 = b.toNat := by omega
  have third : group / 0x40 % 64 % 4 * 64 + group % 64 = c.toNat := by omega
  rw [ungroup, first, second, third, UInt8.ofNat_toNat, UInt8.ofNat_toNat, UInt8.ofNat_toNat]

/-- The symbols of complete triples are read four by four. -/
theorem values_written : ∀ (full : Octets) (offset : Nat), full.length % 3 = 0 →
    ∃ read, values offset (written full) = .ok read ∧ ungroup read = full
  | [], _, _ => ⟨[], rfl, rfl⟩
  | [_], _, complete => nomatch complete
  | [_, _], _, complete => nomatch complete
  | a :: b :: c :: full, offset, complete => by
      have small := a.toNat_lt
      have alsoSmall := b.toNat_lt
      have smallToo := c.toNat_lt
      obtain ⟨read, isRead, grouped⟩ :=
        values_written full (offset + 1 + 1 + 1 + 1) (shorter complete)
      let group := a.toNat * 0x10000 + b.toNat * 0x100 + c.toNat
      have isGroup : group = a.toNat * 0x10000 + b.toNat * 0x100 + c.toNat := rfl
      refine ⟨group / 0x40000 :: group / 0x1000 % 64 :: group / 0x40 % 64 :: group % 64 :: read,
        ?_, ?_⟩
      · have split : written (a :: b :: c :: full) =
            symbolOctet (group / 0x40000) :: symbolOctet (group / 0x1000 % 64) ::
              symbolOctet (group / 0x40 % 64) :: symbolOctet (group % 64) :: written full := rfl
        rw [split, values, value?_symbolOctet _ (by omega), values, value?_symbolOctet _ (by omega),
          values, value?_symbolOctet _ (by omega), values, value?_symbolOctet _ (by omega), isRead]
        rfl
      · rw [ungroup_triple, grouped]

/-- The last symbols are read one by one. -/
theorem readLast_written (offset place value : Nat) (read : List (UInt8 × Nat)) (small : value < 64)
    (rest : Octets) :
    readLast offset place ⟨read, 0⟩ (symbolOctet value :: rest) =
      readLast offset (place + 1) ⟨read ++ [(symbolOctet value, value)], 0⟩ rest := by
  rw [readLast, if_neg (symbolOctet_ne_padding value small), if_neg (Nat.lt_irrefl 0),
    value?_symbolOctet value small]

/-- The one to three octets that are left are read from their group. -/
theorem readLast_close (offset : Nat) : ∀ last : Octets, last ≠ [] → last.length ≤ 3 →
    ∃ read, readLast offset 0 {} (written last) = .ok read ∧ closeLast offset read = .ok last
  | [a], _, _ => by
      have small := a.toNat_lt
      have split : written [a] = [symbolOctet (a.toNat / 4), symbolOctet (a.toNat % 4 * 16),
        padding, padding] := rfl
      have spelled : a.toNat / 4 * 4 + a.toNat % 4 * 16 / 16 = a.toNat := by omega
      rw [split, readLast_written _ _ _ _ (by omega), readLast_written _ _ _ _ (by omega)]
      refine ⟨_, rfl, ?_⟩
      simp only [closeLast, List.nil_append, List.singleton_append]
      rw [if_neg (by simp), if_neg (by simp), if_neg (by omega), spelled, UInt8.ofNat_toNat]
  | [a, b], _, _ => by
      have small := a.toNat_lt
      have alsoSmall := b.toNat_lt
      let group := a.toNat * 0x100 + b.toNat
      have isGroup : group = a.toNat * 0x100 + b.toNat := rfl
      have split : written [a, b] = [symbolOctet (group / 0x400), symbolOctet (group / 0x10 % 64),
        symbolOctet (group % 0x10 * 4), padding] := rfl
      have first : group / 0x400 * 4 + group / 0x10 % 64 / 16 = a.toNat := by omega
      have second : group / 0x10 % 64 % 16 * 16 + group % 0x10 * 4 / 4 = b.toNat := by omega
      rw [split, readLast_written _ _ _ _ (by omega), readLast_written _ _ _ _ (by omega),
        readLast_written _ _ _ _ (by omega)]
      refine ⟨_, rfl, ?_⟩
      simp only [closeLast, List.nil_append, List.cons_append]
      rw [if_neg (by simp), if_neg (by simp), if_neg (by omega), first, second,
        UInt8.ofNat_toNat, UInt8.ofNat_toNat]
  | [a, b, c], _, _ => by
      have small := a.toNat_lt
      have alsoSmall := b.toNat_lt
      have smallToo := c.toNat_lt
      let group := a.toNat * 0x10000 + b.toNat * 0x100 + c.toNat
      have isGroup : group = a.toNat * 0x10000 + b.toNat * 0x100 + c.toNat := rfl
      have split : written [a, b, c] = [symbolOctet (group / 0x40000),
        symbolOctet (group / 0x1000 % 64), symbolOctet (group / 0x40 % 64),
        symbolOctet (group % 64)] := rfl
      rw [split, readLast_written _ _ _ _ (by omega), readLast_written _ _ _ _ (by omega),
        readLast_written _ _ _ _ (by omega), readLast_written _ _ _ _ (by omega)]
      refine ⟨_, rfl, ?_⟩
      simp only [closeLast, List.nil_append, List.cons_append]
      rw [if_neg (by simp), if_neg (by simp)]
      exact congrArg Except.ok (ungroup_triple a b c [])

/-- A last group has four symbols. -/
theorem length_written_last : ∀ last : Octets, last ≠ [] → last.length ≤ 3 →
    (written last).length = 4
  | [_], _, _ => rfl
  | [_, _], _, _ => rfl
  | [_, _, _], _, _ => rfl

/-- Octets are complete triples and a rest of one to three. -/
theorem exists_last {octets : Octets} (filled : octets ≠ []) :
    ∃ full last, octets = full ++ last ∧ full.length % 3 = 0 ∧ last ≠ [] ∧ last.length ≤ 3 := by
  have length := List.length_pos_iff.mpr filled
  let place := (octets.length - 1) / 3 * 3
  have isPlace : place = (octets.length - 1) / 3 * 3 := rfl
  refine ⟨octets.take place, octets.drop place, (List.take_append_drop _ _).symm, ?_, ?_, ?_⟩
  · rw [List.length_take, Nat.min_eq_left (by omega)]
    exact Nat.mul_mod_left _ _
  · intro nothing
    have short := List.drop_eq_nil_iff.mp nothing
    omega
  · rw [List.length_drop]
    omega

/-- The octets of a written form are those that it was written for. -/
theorem decodeOctets_written (octets : Octets) : decodeOctets (written octets) = .ok octets := by
  by_cases empty : octets = []
  · rw [empty]
    rfl
  · obtain ⟨full, last, rfl, complete, left, few⟩ := exists_last empty
    rw [written_append full last complete]
    have groups := length_written full complete
    have fourLast := length_written_last last left few
    have length : (written full ++ written last).length = (written full).length + 4 := by
      rw [List.length_append, fourLast]
    have offset : ((written full ++ written last).length - 1) / 4 * 4 = (written full).length := by
      omega
    have filled : (written full ++ written last).isEmpty = false := by
      rw [List.isEmpty_eq_false_iff]
      intro nothing
      rw [nothing] at length
      simp at length
    obtain ⟨read, isRead, grouped⟩ := values_written full 0 complete
    obtain ⟨closing, isLast, closed⟩ := readLast_close (written full).length last left few
    rw [decodeOctets, strayEnd?, if_neg (by omega)]
    simp only [filled, offset, List.take_left, List.drop_left, isRead, isLast, closed, grouped]
    rfl

/-- A written form is read as the octets that it was written for. -/
@[simp] theorem decode_encode (octets : Octets) : decode (encode octets) = .ok octets := by
  rw [decode, encode_encode, decodeOctets_written]

end RingCache.Base64
