import Mathlib.Logic.ExistsUnique
import RingCache.Proofs.Report
import RingCache.Proofs.Text.WrittenForms

/-!
# Envelopes and what they hold

Putting octets into an envelope and opening it are inverse to each other: the
envelope of octets travels and opens as these octets, and of all envelopes it is the
only one that does (`contents_eq_ok_iff`). The envelopes that open are those whose
text is canonical (`opens_iff_canonical`); opening any other is a failure of the
transport. `opens_only_as_sealed` puts the three together.
-/

namespace RingCache.Envelope

variable {envelope : Envelope} {octets : Octets}

theorem contents_eq_ok_iff_decode :
    envelope.contents = .ok octets ↔ Base64.decode envelope.value = .ok octets := by
  rw [contents]
  cases Base64.decode envelope.value <;> simp

/-- Only the envelope of octets opens as these octets. -/
theorem contents_eq_ok_iff : envelope.contents = .ok octets ↔ envelope = ofOctets octets := by
  rw [contents_eq_ok_iff_decode, Base64.decode_eq_ok_iff, ofOctets]
  constructor
  · intro isWritten
    cases envelope
    exact congrArg Envelope.mk isWritten
  · rintro rfl
    rfl

/-- An envelope opens exactly if its text is canonical. -/
theorem opens_iff_canonical :
    (∃ octets, envelope.contents = .ok octets) ↔ Base64.Canonical envelope.value.toList := by
  rw [← Base64.decode_succeeds_iff]
  exact exists_congr fun _ => contents_eq_ok_iff_decode

/-- An envelope that is none of octets is refused as a failure of the transport. -/
theorem contents_refuses_iff : (∀ octets, envelope ≠ ofOctets octets) ↔
    ∃ fault : Base64.Fault, envelope.contents =
      .error (.transport ("decoding response body: " ++ fault.message)) := by
  constructor
  · intro foreign
    cases decoded : Base64.decode envelope.value with
    | ok octets =>
        have opens := contents_eq_ok_iff_decode.mpr decoded
        exact absurd (contents_eq_ok_iff.mp opens) (foreign octets)
    | error fault =>
        refine ⟨fault, ?_⟩
        rw [contents, decoded]
  · rintro ⟨fault, refused⟩ octets rfl
    rw [contents_ofOctets] at refused
    contradiction

/-- Octets travel in their envelope and come out of it, no two sequences of octets share
an envelope, and no other envelope holds them: a text is opened exactly if it was written
for the octets in it, that is, if it is canonical, and refused otherwise. -/
theorem opens_only_as_sealed :
    (∀ octets, read (Utf8.encode (ofOctets octets).toJson.render) = .ok (ofOctets octets) ∧
      (ofOctets octets).contents = .ok octets) ∧
    (∀ text octets, Envelope.contents ⟨text⟩ = .ok octets ↔ text = (ofOctets octets).value) ∧
    (∀ text, (∀ octets, text ≠ (ofOctets octets).value) ↔
      ∃ fault : Base64.Fault, Envelope.contents ⟨text⟩ =
        .error (.transport ("decoding response body: " ++ fault.message))) ∧
    (∀ text, (∃ octets, Envelope.contents ⟨text⟩ = .ok octets) ↔
      Base64.Canonical text.toList) ∧
    Function.Injective ofOctets ∧
    ∀ octets, ∃! envelope : Envelope, envelope.contents = .ok octets := by
  refine ⟨fun octets => ⟨read_toJson _, contents_ofOctets _⟩, fun text octets => ?_,
    fun text => ?_, fun text => opens_iff_canonical, fun left right same => ?_, fun octets => ?_⟩
  · simp [contents_eq_ok_iff, ofOctets]
  · simp [← contents_refuses_iff, ofOctets]
  · have opens : (ofOctets left).contents = (ofOctets right).contents := congrArg contents same
    simpa using opens
  · exact ⟨ofOctets octets, contents_ofOctets octets, fun _ opens => contents_eq_ok_iff.mp opens⟩

end RingCache.Envelope
