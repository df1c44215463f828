import ClientRegistration.Proofs.Metadata
import ClientRegistration.Proofs.Value.OfJson
namespace ClientRegistration.Metadata

/-- The metadata which is made of a dictionary of other metadata: the same fields, in a text of
their own. -/
def canonical (m : Metadata) : Except Fault Metadata := do ofValue (← m.toDictionary)

section

variable {m : Metadata} {members : List (Text × Json)}

theorem toDictionary_of_fields (h : m.fields = Value.fieldsOfMembers members) :
    m.toDictionary = .ok m.toMapping := by
  rw [toDictionary, h, Value.fieldsHaveView_fieldsOfMembers]
  rfl

theorem canonical_of_fields (readable : (Json.object members).Readable)
    (h : m.fields = Value.fieldsOfMembers members) : m.canonical = .ok (ofMembers members) := by
  rw [canonical, toDictionary_of_fields h, ok_bind, toMapping, h]
  exact ofValue_ofFields readable

theorem toJsonText_of_fields (readable : (Json.object members).Readable)
    (h : m.fields = Value.fieldsOfMembers members) :
    m.toMapping.toJsonText false = .ok (ofMembers members).source := by
  rw [Value.toJsonText, toMapping, h, Value.toJson_ofFields readable]
  rfl

end

theorem ofValue_text_eq_ok_iff {t : Text} {m : Metadata} :
    ofValue (.text t) = .ok m ↔ m.source = t ∧ ∃ members,
      Value.readText t = .ok (.object members) ∧ m.fields = Value.fieldsOfMembers members := by
  simp only [Value.readText_eq_ok_iff]
  refine ofSource_eq_ok_iff.trans (and_congr_right ?_)
  rintro rfl
  rfl

/-- Metadata of a text keeps the text in every copy. Its canonical text is that of its fields,
which stay the same, and stays itself when it is made canonical again; and other metadata has the
same canonical text exactly if its own text stands for the same document. -/
theorem canonical_text_tells_document {t : Text} {m : Metadata} (h : ofValue (.text t) = .ok m) :
    m.source = t ∧ m.copy = .ok m ∧ ofValue m.toValue = .ok m ∧
      ∃ d, m.canonical = .ok d ∧ d.fields = m.fields ∧
        m.toMapping.toJsonText false = .ok d.source ∧ d.canonical = .ok d ∧
        ∀ u n, ofValue (.text u) = .ok n → ∃ e, n.canonical = .ok e ∧
          (e.source = d.source ↔ Value.readText u = Value.readText t) := by
  have genuine := genuine_of_ofValue h
  obtain ⟨hsource, members, hread, hfields⟩ := ofValue_text_eq_ok_iff.1 h
  have readable := Json.readable_of_read (Value.readText_eq_ok_iff.1 hread)
  refine ⟨hsource, genuine.copy_eq, genuine.ofValue_toValue, ofMembers members,
    canonical_of_fields readable hfields, hfields.symm, toJsonText_of_fields readable hfields,
    canonical_of_fields readable rfl, ?_⟩
  intro u n hn
  obtain ⟨-, others, hread', hfields'⟩ := ofValue_text_eq_ok_iff.1 hn
  have readable' := Json.readable_of_read (Value.readText_eq_ok_iff.1 hread')
  refine ⟨ofMembers others, canonical_of_fields readable' hfields', ?_⟩
  rw [hread, hread', Except.ok.injEq]
  exact readable'.write_inj readable

theorem canonical_text_tells_document_of_spellings :
    let t : Text := " \x7b \"b\" : null, \"a\" : [true] , \"b\" : \"\\u0041\" \x7d"
    let u : Text := "\x7b\"b\":\"A\",\"a\":[true]\x7d"
    ∃ m n d e, ofValue (.text t) = .ok m ∧ ofValue (.text u) = .ok n ∧ m.source = t ∧
      m.canonical = .ok d ∧ n.canonical = .ok e ∧ d.source = u ∧ e.source = u := by
  let members : List (Text × Json) := [("b", .text "A"), ("a", .array [.bool true])]
  have hspelled : Value.readText
      (Text.ofString " \x7b \"b\" : null, \"a\" : [true] , \"b\" : \"\\u0041\" \x7d") =
        .ok (.object [("b", .text "A"), ("a", .array [.bool true])]) := by cbv
  have hcompact : Value.readText (Text.ofString "\x7b\"b\":\"A\",\"a\":[true]\x7d") =
      .ok (.object [("b", .text "A"), ("a", .array [.bool true])]) := by cbv
  have hwritten : (Value.ofFields (Value.fieldsOfMembers
      [("b", .text "A"), ("a", .array [.bool true])])).toJsonText false =
        .ok (Text.ofString "\x7b\"b\":\"A\",\"a\":[true]\x7d") := by cbv
  intro t u
  have ht : ofValue (.text t) = .ok ⟨t, Value.fieldsOfMembers members⟩ :=
    ofValue_text_eq_ok_iff.2 ⟨rfl, members, hspelled, rfl⟩
  have hu : ofValue (.text u) = .ok ⟨u, Value.fieldsOfMembers members⟩ :=
    ofValue_text_eq_ok_iff.2 ⟨rfl, members, hcompact, rfl⟩
  obtain ⟨hsource, -, -, d, hd, -, htext, -, hsame⟩ := canonical_text_tells_document ht
  obtain ⟨e, he, hiff⟩ := hsame u _ hu
  have hd' : d.source = u := Except.ok.inj (htext.symm.trans hwritten)
  have he' : e.source = d.source := hiff.2 (hcompact.trans hspelled.symm)
  exact ⟨_, _, d, e, ht, hu, hsource, hd, he, hd', he'.trans hd'⟩

end ClientRegistration.Metadata
