import ClientRegistration.Proofs.Metadata
import ClientRegistration.Proofs.Value.Plain
namespace ClientRegistration.Metadata

theorem exists_ofValue_of_toJson {entries : Fields Value Value} {document : Json}
    (h : (Value.mapping entries).toJson = .ok document) :
    ∃ m, ofValue (.mapping entries) = .ok m ∧ m.source = document.write false ∧
      m.toMapping = (Value.mapping entries).normal := by
  have hread := Value.read_write_of_toJson h
  have hnormal := Value.ofJson_collapse h
  have hsource : sourceOf (.mapping entries) = .ok (document.write false) := by
    rw [sourceOf, sourceOfEntries, h]
  rw [Value.toJson] at h
  obtain ⟨members, -, rfl⟩ := map_eq_ok_iff.1 h
  rw [Json.collapse] at hread hnormal
  refine ⟨⟨_, Value.fieldsOfMembers (Fields.collect (Json.collapseMembers members))⟩, ?_, rfl, ?_⟩
  · rw [ofValue, hsource]
    exact ofSource_eq_ok_iff.2 ⟨rfl, _, hread, rfl⟩
  · rw [← hnormal, Value.ofJson_object]
    rfl

/-- A plain mapping is metadata: the fields are its normal form and the text is its own. -/
theorem ofValue_of_plain {entries : Fields Value Value}
    (plain : ∀ part ∈ (Value.mapping entries).parts, part.isPlain = true) :
    ∃ m, ofValue (.mapping entries) = .ok m ∧
      m.toMapping = (Value.mapping entries).normal ∧
      (Value.mapping entries).toJsonText false = .ok m.source := by
  obtain ⟨document, hdocument⟩ := (Value.exists_toJson_iff _).2 plain
  obtain ⟨m, hm, hsource, hfields⟩ := exists_ofValue_of_toJson hdocument
  refine ⟨m, hm, hfields, ?_⟩
  rw [Value.toJsonText, hdocument, hsource]

/-- Keys of three kinds, two with the same text, a tuple, and surrogates which stay apart. -/
theorem ofValue_of_plain_of_same_text :
    let pair : Text := [CodePoint.ofNat 0xD83D, CodePoint.ofNat 0xDE00]
    let entries : Fields Value Value :=
      [(.bool true, .tuple [.int 1]), (.null, .text pair),
        (.text "true", .mapping [(.int 7, .float .nan), (.text "7", .list [])])]
    (∀ part ∈ (Value.mapping entries).parts, part.isPlain = true) ∧
      ∃ m, ofValue (.mapping entries) = .ok m ∧
        m.toMapping = .mapping [(.text "true", .mapping [(.text "7", .list [])]),
          (.text "null", .text pair)] ∧
        m.source = ("\x7b\"true\":[1],\"null\":\"" : Text) ++ pair ++
          "\",\"true\":\x7b\"7\":NaN,\"7\":[]\x7d\x7d" := by
  intro pair entries
  have plain : ∀ part ∈ (Value.mapping entries).parts, part.isPlain = true := by decide
  obtain ⟨m, hm, hfields, hsource⟩ := ofValue_of_plain plain
  refine ⟨plain, m, hm, hfields, ?_⟩
  exact (Except.ok.inj hsource).symm

end ClientRegistration.Metadata
