import ClientRegistration.Proofs.Value.Plain
namespace ClientRegistration

theorem Conversion.encoded_strict (charset : Charset) (t : Text) :
    Conversion.encoded { charset := charset.name } t = charset.encode .strict t := by
  cases charset <;> rfl

namespace Value

theorem toBytes_of_inAscii (charset : Charset) {t : Text} (h : t.InAscii) :
    (text t).toBytes { charset := charset.name } =
      .ok (some (t.map fun c => UInt8.ofNat c.val)) := by
  rw [toBytes, Conversion.encode, Conversion.encoded_strict, charset.encode_strict_of_inAscii h]
  rfl

/-- A value which can be written at all can be written in both ways. Escaped it is printable ASCII,
with the same bytes in each charset; and what is read from both texts is the same document, the
value's normal form, as long as no text in the value, at whatever depth, has a high surrogate with
a low one right after it. -/
theorem writing_modes_agree {v : Value} {ascii : Bool} {written : Text}
    (accepted : v.toJsonText ascii = .ok written) (unpaired : ∀ t ∈ v.texts, t.Unpaired) :
    ∃ escaped raw, v.toJsonText true = .ok escaped ∧ v.toJsonText false = .ok raw ∧
      (∀ c ∈ escaped, 0x20 ≤ c.val ∧ c.val ≤ 0x7E) ∧
      (∀ charset : Charset, (text escaped).toBytes { charset := charset.name } =
        .ok (some (escaped.map fun c => UInt8.ofNat c.val))) ∧
      ∃ document, readDocument (.text escaped) = .ok document ∧
        readDocument (.text raw) = .ok document ∧ ofJson document = v.normal := by
  obtain ⟨document, hdocument⟩ : ∃ document, v.toJson = .ok document := by
    rw [toJsonText] at accepted
    split at accepted
    · next document hdocument => exact ⟨document, hdocument⟩
    · cases accepted
  have hwrite (ascii : Bool) : v.toJsonText ascii = .ok (document.write ascii) := by
    rw [toJsonText, hdocument]
  have hescaped := Json.inAscii_write document
  refine ⟨_, _, hwrite true, hwrite false, hescaped,
    fun charset => toBytes_of_inAscii charset hescaped, document.collapse, ?_, ?_,
    ofJson_collapse hdocument⟩
  · exact readText_eq_ok_iff.2 (read_write_ascii_of_toJson hdocument unpaired)
  · exact readText_eq_ok_iff.2 (read_write_of_toJson hdocument)

theorem writing_modes_agree_of_surrogates :
    let name : Text := [CodePoint.ofNat 0x1F600]
    let single : Text :=
      [CodePoint.ofNat 0xDC00, CodePoint.ofNat 0xD83D, CodePoint.ofNat 0x1F600]
    let v : Value := .mapping [(.text name, .tuple [.text single]), (.int 1, .text "~")]
    let escaped : Text :=
      "\x7b\"\\ud83d\\ude00\":[\"\\udc00\\ud83d\\ud83d\\ude00\"],\"1\":\"~\"\x7d"
    let raw : Text := ("\x7b\"" : Text) ++ name ++ "\":[\"" ++ single ++ "\"],\"1\":\"~\"\x7d"
    (∀ t ∈ v.texts, t.Unpaired) ∧
      v.toJsonText true = .ok escaped ∧ v.toJsonText false = .ok raw ∧
      (∀ c ∈ escaped, 0x20 ≤ c.val ∧ c.val ≤ 0x7E) ∧
      ∃ document, readDocument (.text escaped) = .ok document ∧
        readDocument (.text raw) = .ok document ∧ ofJson document =
          .mapping [(.text name, .list [.text single]), (.text "1", .text "~")] := by
  intro name single v escaped raw
  have unpaired : ∀ t ∈ v.texts, t.Unpaired := by decide
  have hescaped : v.toJsonText true = .ok escaped := by cbv
  have hraw : v.toJsonText false = .ok raw := by cbv
  obtain ⟨escaped', raw', hescaped', hraw', hascii, -, document, hread, hread', hdocument⟩ :=
    writing_modes_agree hescaped unpaired
  obtain rfl : escaped = escaped' := Except.ok.inj (hescaped.symm.trans hescaped')
  obtain rfl : raw = raw' := Except.ok.inj (hraw.symm.trans hraw')
  exact ⟨unpaired, hescaped, hraw, hascii, document, hread, hread', hdocument⟩

end Value

end ClientRegistration
