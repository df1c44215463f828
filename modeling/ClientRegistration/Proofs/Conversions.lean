import ClientRegistration.Proofs.Value.Plain
import ClientRegistration.Proofs.Value.Surrogates
namespace ClientRegistration

theorem Utf8.encodeChar_ofChar (c : Char) :
    encodeChar (CodePoint.ofChar c) = String.utf8EncodeChar c := by
  have hlt : c.val.toNat < 0x110000 := CodePoint.val_lt_of_char c
  have hval : (CodePoint.ofChar c).val = c.val.toNat := rfl
  simp only [encodeChar, hval, String.utf8EncodeChar, Nat.add_comm 0x80]
  generalize c.val.toNat = n at hlt
  by_cases hone : n < 0x80
  · rw [if_pos hone, if_pos (Nat.le_of_lt_succ hone)]
  have hone' : ¬n ≤ 127 := by omega
  rw [if_neg hone, if_neg hone']
  by_cases htwo : n < 0x800
  · have hlead : 0xC0 + n / 0x40 = n / 64 % 32 + 192 := by omega
    rw [if_pos htwo, if_pos (Nat.le_of_lt_succ htwo), hlead]
  have htwo' : ¬n ≤ 2047 := by omega
  rw [if_neg htwo, if_neg htwo']
  by_cases hthree : n < 0x10000
  · have hlead : 0xE0 + n / 0x1000 = n / 4096 % 16 + 224 := by omega
    rw [if_pos hthree, if_pos (Nat.le_of_lt_succ hthree), hlead]
  have hthree' : ¬n ≤ 65535 := by omega
  have hlead : 0xF0 + n / 0x40000 = n / 262144 % 8 + 240 := by omega
  rw [if_neg hthree, if_neg hthree', hlead]

theorem Text.flatMap_encodeChar_ofString (s : String) :
    (ofString s).flatMap Utf8.encodeChar = s.toUTF8.data.toList := by
  have hbytes : s.toUTF8.data.toList = s.toList.flatMap String.utf8EncodeChar := by
    rw [String.toUTF8_eq_toByteArray, ← String.ofList_toList (s := s), String.toByteArray_ofList,
      List.utf8Encode, List.toList_data_toByteArray, String.toList_ofList]
  rw [hbytes, ofString, List.flatMap_map]
  exact List.flatMap_congr fun c _ => Utf8.encodeChar_ofChar c

theorem Conversion.decode_standard_iff_encode {content : Bytes} {t : Text} :
    ({} : Conversion).decode content = .ok t ↔ ({} : Conversion).encode t = .ok content :=
  decode_standard_iff.trans encode_standard_iff.symm

namespace Value

def ofBytes? : Option Bytes → Value
  | none => .null
  | some content => .bytes .fixed content

section

variable {c : Conversion} {v : Value} {n : Number}

theorem toBytes_of_number? (h : v.number? = some n) :
    v.toBytes c = do return some (← c.encode (← v.shown)) := by
  cases v with
  | bool b | int n | float x | documentNaN => rfl
  | _ => cases h

theorem toUnicode_of_number? (h : v.number? = some n) : v.toUnicode c = some <$> v.shown := by
  cases v with
  | bool b | int n | float x | documentNaN => rfl
  | _ => cases h

theorem inAscii_toText_of_number? (h : v.number? = some n) : v.toText.InAscii := by
  cases v with
  | bool b => cases b <;> decide
  | int n => exact Json.inAscii_ofInt n
  | float x =>
    cases x with
    | nan => decide
    | infinity negative => cases negative <;> decide
    | finite negative exponent fraction =>
      exact Json.inAscii_textOfFields negative exponent fraction
  | documentNaN => decide
  | _ => cases h

theorem shown_of_isPlainScalar (h : v.isPlainScalar = true) : v.shown = .ok v.toText := by
  have hshort : v.hasLongInteger = false := by
    cases v with
    | int n =>
      rw [isPlainScalar, Bool.not_eq_true'] at h
      rwa [hasLongInteger]
    | null | bool _ | float _ | documentNaN | text _ => rfl
    | _ => cases h
  rw [shown, hshort]
  rfl

end

theorem toBytes_text_eq_ok_iff {c : Conversion} {t : Text} {content : Bytes} :
    (text t).toBytes c = .ok (some content) ↔ c.encode t = .ok content := by
  rw [toBytes, map_eq_ok_iff]
  simp

theorem toUnicode_bytes_eq_ok_iff {c : Conversion} {kind : ByteKind} {content : Bytes}
    {t? : Option Text} : (bytes kind content).toUnicode c = .ok t? ↔
      ∃ t, c.decode content = .ok t ∧ some t = t? := by
  rw [toUnicode, map_eq_ok_iff]

/-- What is encoded as it is shown has the text which its bytes are decoded to. -/
theorem decodes_back {v : Value} {t : Text} (clean : t.hasSurrogate = false)
    (hbytes : v.toBytes {} = do return some (← ({} : Conversion).encode t))
    (htext : v.toUnicode {} = .ok (some t)) :
    ∃ content? t?, v.toBytes {} = .ok content? ∧ (ofBytes? content?).toUnicode {} = .ok t? ∧
      v.toUnicode {} = .ok t? := by
  have hencode := Conversion.encode_standard_iff.2 ⟨clean, rfl⟩
  rw [hencode] at hbytes
  exact ⟨_, _, hbytes, toUnicode_bytes_eq_ok_iff.2 ⟨t, Conversion.decode_encode hencode, rfl⟩,
    htext⟩

theorem exists_toBytes_of_isPlainScalar {v : Value} (scalar : v.isPlainScalar = true)
    (clean : v.holdsSurrogate = false) :
    ∃ content? t?, v.toBytes {} = .ok content? ∧ (ofBytes? content?).toUnicode {} = .ok t? ∧
      v.toUnicode {} = .ok t? := by
  cases hnumber : v.number? with
  | some n =>
    have hshown := shown_of_isPlainScalar scalar
    apply decodes_back (inAscii_toText_of_number? hnumber).hasSurrogate
    · rw [toBytes_of_number? hnumber, hshown]
      rfl
    · rw [toUnicode_of_number? hnumber, hshown]
      rfl
  | none =>
    cases v with
    | null => exact ⟨none, none, rfl, rfl, rfl⟩
    | text t => exact decodes_back clean rfl rfl
    | bool _ | int _ | float _ | documentNaN => cases hnumber
    | _ => cases scalar

/-- Nothing, text without surrogates, and a number that is not too long have bytes which give their
text again. Bytes, however they are held, have a text iff they are those of a text, and this is the
only text which has these bytes. A text has no bytes iff there is a surrogate in it, and those of a
string are its UTF-8. -/
theorem conversions_undo_each_other :
    (∀ v : Value, v.isPlainScalar = true → v.holdsSurrogate = false →
      ∃ content? t?, v.toBytes {} = .ok content? ∧ (ofBytes? content?).toUnicode {} = .ok t? ∧
        v.toUnicode {} = .ok t?) ∧
    (∀ kind content,
      ((∃ t?, (bytes kind content).toUnicode {} = .ok t?) ↔
        ∃ t, (text t).toBytes {} = .ok (some content)) ∧
      ∀ t?, (bytes kind content).toUnicode {} = .ok t? →
        ∃ t, t? = some t ∧ (text t).toBytes {} = .ok (some content) ∧
          ∀ u, (text u).toBytes {} = .ok (some content) → u = t) ∧
    (∀ t, (∃ fault, (text t).toBytes {} = .error fault) ↔ t.hasSurrogate = true) ∧
    ∀ s : String, (text s).toBytes {} = .ok (some s.toUTF8.data.toList) := by
  refine ⟨fun v => exists_toBytes_of_isPlainScalar, fun kind content => ⟨?_, ?_⟩, fun t => ?_,
    fun s => ?_⟩
  · simp only [toUnicode_bytes_eq_ok_iff, toBytes_text_eq_ok_iff,
      ← Conversion.decode_standard_iff_encode]
    exact ⟨fun ⟨_, t, ht, _⟩ => ⟨t, ht⟩, fun ⟨t, ht⟩ => ⟨some t, t, ht, rfl⟩⟩
  · intro t? h
    obtain ⟨t, ht, rfl⟩ := toUnicode_bytes_eq_ok_iff.1 h
    simp only [toBytes_text_eq_ok_iff, ← Conversion.decode_standard_iff_encode]
    refine ⟨t, rfl, ht, fun u hu => ?_⟩
    exact Except.ok.inj (hu.symm.trans ht)
  · rw [← not_exists_ok_iff, toBytes, exists_map_eq_ok_iff]
    simp [Conversion.encode_standard_iff]
  · rw [toBytes_text_eq_ok_iff, Conversion.encode_standard_iff]
    exact ⟨Text.hasSurrogate_ofString s, Text.flatMap_encodeChar_ofString s⟩

/-- The last characters before the surrogates and before the end, and, one step behind them, bytes
of no text: an encoded surrogate and what would be above all characters. -/
theorem conversions_undo_each_other_of_boundaries :
    let last : Text := [CodePoint.ofNat 0xD7FF, CodePoint.ofNat 0x10FFFF]
    let content : Bytes := [0xED, 0x9F, 0xBF, 0xF4, 0x8F, 0xBF, 0xBF]
    (int (-7)).isPlainScalar = true ∧ (int (-7)).holdsSurrogate = false ∧
      (∃ content?, (int (-7)).toBytes {} = .ok content? ∧
        (ofBytes? content?).toUnicode {} = .ok (some "-7")) ∧
      (bytes .view content).toUnicode {} = .ok (some last) ∧
      (∀ t, (text t).toBytes {} = .ok (some content) ↔ t = last) ∧
      (¬∃ t, (text t).toBytes {} = .ok (some [0xED, 0xA0, 0x80])) ∧
      ¬∃ t, (text t).toBytes {} = .ok (some [0xF4, 0x90, 0x80, 0x80]) := by
  intro last content
  have scalar : (int (-7)).isPlainScalar = true := by decide
  have hlast : (bytes .view content).toUnicode {} = .ok (some last) := by cbv
  have hsurrogate : ∃ fault, (bytes .fixed [0xED, 0xA0, 0x80]).toUnicode {} = .error fault :=
    ⟨_, by cbv⟩
  have habove : ∃ fault, (bytes .fixed [0xF4, 0x90, 0x80, 0x80]).toUnicode {} = .error fault :=
    ⟨_, by cbv⟩
  obtain ⟨hscalars, hbytes, -, -⟩ := conversions_undo_each_other
  obtain ⟨content?, t?, hcontent, hback, ht⟩ := hscalars (int (-7)) scalar rfl
  obtain rfl : some (Text.ofString "-7") = t? := Except.ok.inj ht
  refine ⟨scalar, rfl, ⟨content?, hcontent, hback⟩, hlast, fun t => ?_, ?_, ?_⟩
  · obtain ⟨u, hu, hof, unique⟩ := (hbytes .view content).2 _ hlast
    obtain rfl : last = u := Option.some.inj hu
    exact ⟨unique t, fun heq => heq ▸ hof⟩
  · rw [← (hbytes .fixed _).1]
    exact not_exists_ok_iff.2 hsurrogate
  · rw [← (hbytes .fixed _).1]
    exact not_exists_ok_iff.2 habove

end Value

end ClientRegistration
