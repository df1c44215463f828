import ClientRegistration.Proofs.Text.Decoding
import ClientRegistration.Value.Conversion
namespace ClientRegistration

def Text.hasSurrogate (t : Text) : Bool := t.any (·.isSurrogate)

theorem Text.hasSurrogate_eq_false_iff {t : Text} :
    t.hasSurrogate = false ↔ ∀ c ∈ t, c.isSurrogate = false := by
  simp [hasSurrogate]

namespace Conversion

theorem encoded_standard (t : Text) : ({} : Conversion).encoded t = Charset.utf8.encode .strict t :=
  rfl

theorem decoded_standard (content : Bytes) :
    ({} : Conversion).decoded content = Charset.utf8.decode .strict content := by
  cases content with
  | nil => exact (Charset.decode_strict_utf8_iff.2 ⟨by simp, rfl⟩).symm
  | cons => rfl

theorem encode_standard_iff {t : Text} {content : Bytes} :
    ({} : Conversion).encode t = .ok content ↔
      t.hasSurrogate = false ∧ t.flatMap Utf8.encodeChar = content := by
  have hknows : (∀ c ∈ t, Charset.utf8.knows c = true) ↔ t.hasSurrogate = false := by
    simp only [Text.hasSurrogate_eq_false_iff, Charset.knows, Bool.not_eq_true']
  have hencode := @Charset.encode_strict_iff .utf8 t content
  rw [hknows] at hencode
  refine Iff.trans ?_ hencode
  rw [encode, encoded_standard]
  cases Charset.utf8.encode .strict t <;> simp

/-- A text with surrogates is refused for the first run of them. -/
theorem encode_standard_of_hasSurrogate {t : Text} (h : t.hasSurrogate = true) :
    ∃ start run,
      ({} : Conversion).encode t = .error (.conversion (.unencodable .utf8 start run)) := by
  cases hencode : ({} : Conversion).encode t with
  | ok content =>
    rw [(encode_standard_iff.1 hencode).1] at h
    cases h
  | error fault =>
    rw [encode, encoded_standard] at hencode
    cases hflaw : Charset.utf8.encode .strict t with
    | ok content =>
      rw [hflaw] at hencode
      cases hencode
    | error flaw =>
      obtain ⟨start, run, rfl⟩ := Charset.exists_of_encode_strict_eq_error hflaw
      rw [hflaw] at hencode
      cases hencode
      exact ⟨start, run, rfl⟩

theorem decode_standard_iff {content : Bytes} {t : Text} :
    ({} : Conversion).decode content = .ok t ↔
      t.hasSurrogate = false ∧ t.flatMap Utf8.encodeChar = content := by
  rw [Text.hasSurrogate_eq_false_iff, ← Charset.decode_strict_utf8_iff, decode, decoded_standard]
  cases Charset.utf8.decode .strict content <;> simp

theorem decode_encode {t : Text} {content : Bytes}
    (h : ({} : Conversion).encode t = .ok content) : ({} : Conversion).decode content = .ok t :=
  decode_standard_iff.2 (encode_standard_iff.1 h)

theorem exists_of_decode_eq_error {content : Bytes} {fault : Fault}
    (h : ({} : Conversion).decode content = .error fault) :
    ∃ start reason stretch, fault = .conversion (.undecodable "utf-8" start reason stretch) := by
  rw [decode, decoded_standard] at h
  split at h
  · cases h
  · next flaw hflaw =>
    cases h
    obtain ⟨start, reason, stretch, rfl⟩ := exists_of_textOfPieces_strict_eq_error hflaw
    exact ⟨start, reason, stretch, rfl⟩

end Conversion

end ClientRegistration
