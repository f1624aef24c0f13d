import Mathlib.Data.List.DropRight
import RingCache.Address
import RingCache.PeerList

/-!
# Normal forms of addresses

An address loses the blanks at its ends, and then the slashes after it; neither is done twice. So a
normal form never ends with a slash, but it may end with a blank that stood before slashes, and it
may have lost the slashes of its scheme. An address that is accepted as a peer's is accepted again in
normal form, and stays as it is, exactly if neither has happened (`Address.lasting_iff`).
-/

namespace RingCache

/-! ## Right ends -/

namespace Blank

variable {drop : Char → Bool} {characters front : List Char} {last : Char}

/-- Whether the last character of a text is one that is dropped. -/
def endsIn (drop : Char → Bool) (characters : List Char) : Bool :=
  characters.getLast?.any drop

@[simp] theorem endsIn_concat (drop : Char → Bool) (front : List Char) (last : Char) :
    endsIn drop (front ++ [last]) = drop last := by
  simp [endsIn]

theorem trimRight_eq_rdropWhile (drop : Char → Bool) (characters : List Char) :
    trimRight drop characters = characters.rdropWhile drop := rfl

/-- A text stays as it is if it does not end with a character that is dropped, and else gets
shorter. -/
theorem trimRight_cases (drop : Char → Bool) (characters : List Char) :
    endsIn drop characters = false ∧ trimRight drop characters = characters ∨
      endsIn drop characters = true ∧ (trimRight drop characters).length < characters.length := by
  induction characters using List.reverseRecOn with
  | nil => exact .inl ⟨rfl, rfl⟩
  | append_singleton front last _ =>
      rw [trimRight_eq_rdropWhile, List.rdropWhile_concat, endsIn_concat]
      cases drop last with
      | false => exact .inl ⟨rfl, rfl⟩
      | true =>
          have shorter := (List.rdropWhile_prefix drop front).length_le
          refine .inr ⟨rfl, ?_⟩
          rw [if_pos rfl, List.length_append, List.length_singleton]
          exact Nat.lt_succ_of_le shorter

/-- What is trimmed does not end with a character that is dropped. -/
theorem endsIn_trimRight (drop : Char → Bool) (characters : List Char) :
    endsIn drop (trimRight drop characters) = false := by
  rcases trimRight_cases drop (trimRight drop characters) with ⟨stays, _⟩ | ⟨_, shorter⟩
  · exact stays
  · rw [trimRight_eq_rdropWhile, trimRight_eq_rdropWhile, List.rdropWhile_idempotent] at shorter
    exact absurd shorter (Nat.lt_irrefl _)

/-- What stands before a character that is not dropped stays, and so does this character. -/
theorem prefix_trimRight (stays : drop last = false) (starts : front ++ [last] <+: characters) :
    front ++ [last] <+: trimRight drop characters := by
  obtain ⟨rest, rfl⟩ := starts
  rw [trimRight_eq_rdropWhile]
  induction rest using List.reverseRecOn with
  | nil => simp [stays]
  | append_singleton rest character inductionHypothesis =>
      rw [← List.append_assoc, List.rdropWhile_concat]
      split
      · exact inductionHypothesis
      · exact ⟨rest ++ [character], (List.append_assoc _ _ _).symm⟩

end Blank

/-! ## Addresses with a scheme -/

namespace Address

/-- Whether an address starts with one of the schemes that nodes speak. -/
def HasScheme (address : String) : Prop :=
  "http://".toList <+: address.toList ∨ "https://".toList <+: address.toList

/-- Whether more is left of an address than a scheme, and no blank after it. -/
def Lasting (address : String) : Prop :=
  normalize address ≠ "http:" ∧ normalize address ≠ "https:" ∧
    Blank.endsIn Blank.isBlank (normalize address).toList = false

instance : DecidablePred HasScheme := fun _ => inferInstanceAs (Decidable (_ ∨ _))

instance : DecidablePred Lasting := fun _ => inferInstanceAs (Decidable (_ ∧ _))

variable {address : String}

theorem isSupported_iff : PeerList.isSupported address = true ↔ HasScheme address := by
  rw [PeerList.isSupported, Bool.or_eq_true, String.startsWith_string_iff,
    String.startsWith_string_iff]
  rfl

/-- An address with a scheme starts with no blank. -/
theorem HasScheme.toList_normalize (scheme : HasScheme address) :
    (normalize address).toList =
      Blank.trimRight isSlash (Blank.trimRight Blank.isBlank address.toList) := by
  obtain ⟨rest, whole⟩ : ∃ rest, address.toList = 'h' :: rest := by
    rcases scheme with ⟨rest, whole⟩ | ⟨rest, whole⟩
    · exact ⟨_, whole.symm⟩
    · exact ⟨_, whole.symm⟩
  rw [normalize, String.toList_ofList, Blank.trimBoth, whole]
  rfl

/-- The normal form of an address is what it starts with. -/
theorem HasScheme.normalize_prefix (scheme : HasScheme address) :
    (normalize address).toList <+: address.toList := by
  rw [scheme.toList_normalize, Blank.trimRight_eq_rdropWhile]
  exact (List.rdropWhile_prefix isSlash _).trans (List.rdropWhile_prefix Blank.isBlank _)

/-- No slash ends a normal form. -/
theorem endsIn_slash_normalize (address : String) :
    Blank.endsIn isSlash (normalize address).toList = false := by
  rw [normalize, String.toList_ofList]
  exact Blank.endsIn_trimRight isSlash _

/-- Of a scheme, nothing but the slashes can be lost, and only if nothing comes after them. -/
theorem HasScheme.normalize_cases (has : HasScheme address) (scheme : String) {front : List Char}
    (colon : scheme.toList = front ++ [':'])
    (starts : scheme.toList ++ ['/', '/'] <+: address.toList) :
    normalize address = scheme ∨ scheme.toList ++ ['/', '/'] <+: (normalize address).toList := by
  have kept : scheme.toList <+: (normalize address).toList := by
    have unblanked : front ++ [':', '/'] ++ ['/'] <+: Blank.trimRight Blank.isBlank address.toList :=
      Blank.prefix_trimRight (by decide) (by simpa [colon] using starts)
    have colonStays : front ++ [':'] <+: Blank.trimRight Blank.isBlank address.toList :=
      List.IsPrefix.trans ⟨['/', '/'], by simp⟩ unblanked
    rw [has.toList_normalize, colon]
    exact Blank.prefix_trimRight (by decide) colonStays
  rcases List.prefix_or_prefix_of_prefix has.normalize_prefix starts with short | long
  · obtain ⟨rest, whole⟩ := kept
    have unslashed := endsIn_slash_normalize address
    rw [← whole] at short unslashed
    refine .inl (String.toList_inj.mp ?_)
    rw [← whole]
    -- what comes after the colon is a part of the two slashes, and does not end with one
    induction rest using List.reverseRecOn with
    | nil => exact List.append_nil _
    | append_singleton rest last _ =>
        have inSlashes : last ∈ ['/', '/'] :=
          ((List.prefix_append_right_inj _).mp short).subset (by simp)
        obtain rfl : last = '/' := by simpa using inSlashes
        rw [← List.append_assoc, Blank.endsIn_concat] at unslashed
        cases unslashed
  · exact .inr long

/-- A normal form has a scheme unless it has lost the slashes of it. -/
theorem HasScheme.hasScheme_normalize_iff (has : HasScheme address) :
    HasScheme (normalize address) ↔ normalize address ≠ "http:" ∧ normalize address ≠ "https:" := by
  constructor
  · intro still
    refine ⟨fun lost => ?_, fun lost => ?_⟩
    · exact absurd (lost ▸ still) (by decide)
    · exact absurd (lost ▸ still) (by decide)
  · rintro ⟨notPlain, notSecure⟩
    rcases has with plain | secure
    · have colon : "http:".toList = ['h', 't', 't', 'p'] ++ [':'] := by decide
      rcases HasScheme.normalize_cases (.inl plain) "http:" colon plain with lost | kept
      · exact absurd lost notPlain
      · exact .inl kept
    · have colon : "https:".toList = ['h', 't', 't', 'p', 's'] ++ [':'] := by decide
      rcases HasScheme.normalize_cases (.inr secure) "https:" colon secure with lost | kept
      · exact absurd lost notSecure
      · exact .inr kept

/-- Something is always left of an address with a scheme. -/
theorem HasScheme.normalize_ne_empty (has : HasScheme address) : normalize address ≠ "" := by
  intro nothing
  have lost := has.hasScheme_normalize_iff.mpr
  rw [nothing] at lost
  exact absurd (lost ⟨by decide, by decide⟩) (by decide)

/-- A normal form with a scheme stays as it is unless it ends with a blank. Then it gets shorter. -/
theorem normalize_normalize_cases (has : HasScheme (normalize address)) :
    Blank.endsIn Blank.isBlank (normalize address).toList = false ∧
        normalize (normalize address) = normalize address ∨
      Blank.endsIn Blank.isBlank (normalize address).toList = true ∧
        (normalize (normalize address)).length < (normalize address).length := by
  rcases Blank.trimRight_cases Blank.isBlank (normalize address).toList with
    ⟨stays, same⟩ | ⟨ends, shorter⟩
  · refine .inl ⟨stays, String.toList_inj.mp ?_⟩
    rw [has.toList_normalize, same]
    rcases Blank.trimRight_cases isSlash (normalize address).toList with
      ⟨_, alsoSame⟩ | ⟨endsInSlash, _⟩
    · exact alsoSame
    · cases (endsIn_slash_normalize address).symm.trans endsInSlash
  · refine .inr ⟨ends, ?_⟩
    rw [← String.length_toList, ← String.length_toList, has.toList_normalize]
    exact (List.rdropWhile_prefix isSlash _).length_le.trans_lt shorter

/-- An address that is accepted as a peer's is accepted again in normal form, and stays as it is,
exactly if more is left of it than a scheme and no blank is left at its end. -/
theorem lasting_iff (has : HasScheme address) :
    Lasting address ↔
      HasScheme (normalize address) ∧ normalize (normalize address) = normalize address := by
  rw [Lasting, ← and_assoc, ← has.hasScheme_normalize_iff]
  refine and_congr_right fun still => ?_
  rcases normalize_normalize_cases still with ⟨stays, same⟩ | ⟨ends, shorter⟩
  · exact iff_of_true stays same
  · refine iff_of_false (by simp [ends]) fun same => ?_
    rw [same] at shorter
    exact Nat.lt_irrefl _ shorter

/-- Of the first address only `http:` is left, which is not accepted, and of the second one the
blank before the slash. -/
example : ¬ Lasting "http:// " ∧ ¬ Lasting "http://a /" ∧ Lasting "http://a:1// " := by decide

end Address

end RingCache
