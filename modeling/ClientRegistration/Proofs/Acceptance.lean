import ClientRegistration.Proofs.NormalForm
import ClientRegistration.Proofs.Value.Conversion
import ClientRegistration.Proofs.Value.Literal
namespace ClientRegistration.Metadata

/-- The values which metadata is made of: nothing, metadata, plain mappings, and JSON objects in a
text or in bytes. Metadata can be of any text, since a value does not have to be read from one. -/
def Accepts : Value → Prop
  | .null => True
  | .metadata source _ => Json.IsObjectText source
  | .mapping entries => ∀ part ∈ (Value.mapping entries).parts, part.isPlain = true
  | .text t => Json.IsObjectText t
  | .bytes _ content =>
    ∃ t : Text, t.hasSurrogate = false ∧ t.flatMap Utf8.encodeChar = content ∧ Json.IsObjectText t
  | .bool _ | .int _ | .float _ | .documentNaN | .list _ | .tuple _ | .set _ | .endpoint _ => False

theorem exists_ofSource_iff {source : Text} :
    (∃ m, ofSource source = .ok m) ↔ Json.IsObjectText source := by
  constructor
  · rintro ⟨m, hm⟩
    obtain ⟨rfl, members, hread, -⟩ := ofSource_eq_ok_iff.1 hm
    exact ⟨members, hread⟩
  · rintro ⟨members, hread⟩
    exact ⟨⟨source, _⟩, ofSource_eq_ok_iff.2 ⟨rfl, members, hread, rfl⟩⟩

theorem isInvalidValue_of_ofSource {source : Text} {fault : Fault}
    (h : ofSource source = .error fault) : fault.isInvalidValue = true := by
  obtain h | ⟨document, -, h⟩ := bind_eq_error_iff.1 h
  · rw [Value.readText, Value.readTextWith] at h
    split at h
    · cases h
    · next refusal _ =>
      cases h
      cases refusal <;> rfl
  · cases document with
    | object members => cases h
    | _ =>
      cases h
      rfl

theorem isInvalidValue_of_sourceOfEntries {entries : Fields Value Value} {fault : Fault}
    (h : sourceOfEntries entries = .error fault) : fault.isInvalidValue = true := by
  rw [sourceOfEntries] at h
  split at h
  · cases h
  · cases h
    rfl
  · cases h
    rfl

theorem isInvalidValue_of_shown {v : Value} {fault : Fault} (h : v.shown = .error fault) :
    fault.isInvalidValue = true := by
  rw [Value.shown] at h
  split at h
  · cases h
    rfl
  · cases h

theorem isInvalidValue_of_sourceOf {v : Value} {fault : Fault} (h : sourceOf v = .error fault) :
    fault.isInvalidValue = true := by
  cases v with
  | null => cases h
  | metadata source fields => cases h
  | mapping entries => exact isInvalidValue_of_sourceOfEntries h
  | text t => cases h
  | bytes kind content =>
    obtain h | ⟨_, _, h⟩ := bind_eq_error_iff.1 h
    · obtain ⟨start, reason, stretch, rfl⟩ :=
        Conversion.exists_of_decode_eq_error (map_eq_error_iff.1 h)
      rfl
    · cases h
  | _ =>
    obtain h | ⟨_, _, h⟩ := bind_eq_error_iff.1 h
    · exact isInvalidValue_of_shown (map_eq_error_iff.1 h)
    · cases h

theorem exists_ofValue_iff_sourceOf {v : Value} :
    (∃ m, ofValue v = .ok m) ↔ ∃ source, sourceOf v = .ok source ∧ Json.IsObjectText source := by
  simp only [ofValue, bind_eq_ok_iff, ← exists_ofSource_iff]
  constructor
  · rintro ⟨m, source, hsource, hm⟩
    exact ⟨source, hsource, m, hm⟩
  · rintro ⟨source, hsource, m, hm⟩
    exact ⟨m, source, hsource, hm⟩

theorem exists_ofValue_mapping_iff {entries : Fields Value Value} :
    (∃ m, ofValue (.mapping entries) = .ok m) ↔
      ∀ part ∈ (Value.mapping entries).parts, part.isPlain = true := by
  rw [← Value.exists_toJson_iff]
  constructor
  · intro h
    obtain ⟨source, hsource, -⟩ := exists_ofValue_iff_sourceOf.1 h
    rw [sourceOf, sourceOfEntries] at hsource
    split at hsource
    · next document hdocument => exact ⟨document, hdocument⟩
    · cases hsource
    · cases hsource
  · rintro ⟨document, hdocument⟩
    obtain ⟨m, hm, -⟩ := exists_ofValue_of_toJson hdocument
    exact ⟨m, hm⟩

theorem not_exists_ofValue_of_shown {v : Value} (noText : ∀ t, v ≠ .text t)
    (noMapping : ∀ entries, v ≠ .mapping entries)
    (hsource : sourceOf v = do return (← some <$> v.shown).getD []) :
    ¬∃ m, ofValue v = .ok m := by
  intro h
  obtain ⟨source, hok, hobject⟩ := exists_ofValue_iff_sourceOf.1 h
  rw [hsource, Value.shown] at hok
  split at hok
  · cases hok
  · cases hok
    exact Value.not_isObjectText_toText noText noMapping hobject

theorem exists_ofValue_iff {v : Value} : (∃ m, ofValue v = .ok m) ↔ Accepts v := by
  cases v with
  | null => exact iff_of_true (exists_ofValue_iff_sourceOf.2 ⟨_, rfl, [], rfl⟩) trivial
  | metadata source fields => exact exists_ofSource_iff
  | mapping entries => exact exists_ofValue_mapping_iff
  | text t => exact exists_ofSource_iff
  | bytes kind content =>
    have hsource (source : Text) : sourceOf (.bytes kind content) = .ok source ↔
        ({} : Conversion).decode content = .ok source := by
      rw [sourceOf, Value.toUnicode]
      · cases ({} : Conversion).decode content <;> simp
      all_goals simp
    simp only [exists_ofValue_iff_sourceOf, hsource, Conversion.decode_standard_iff, Accepts,
      and_assoc]
  | bool _ | int _ | float _ | documentNaN | list _ | tuple _ | set _ | endpoint _ =>
    exact iff_of_false (not_exists_ofValue_of_shown (by simp) (by simp) rfl) id

/-- Metadata is made of the values it accepts; every other value is refused as an invalid one. A
mapping is refused exactly for something in it, at whatever depth, which is not plain. -/
theorem ofValue_contract (v : Value) :
    ((∃ m, ofValue v = .ok m) ↔ Accepts v) ∧
      (∀ fault, ofValue v = .error fault → fault.isInvalidValue = true) ∧
      ∀ entries, v = .mapping entries →
        ((∃ fault, ofValue v = .error fault) ↔ ∃ part ∈ v.parts, part.isPlain = false) := by
  refine ⟨exists_ofValue_iff, ?_, ?_⟩
  · intro fault h
    obtain h | ⟨source, -, h⟩ := bind_eq_error_iff.1 h
    · exact isInvalidValue_of_sourceOf h
    · exact isInvalidValue_of_ofSource h
  · rintro entries rfl
    rw [← not_exists_ok_iff, exists_ofValue_mapping_iff]
    simp only [not_forall, Bool.not_eq_true, exists_prop]

theorem ofValue_contract_of_sets :
    let set : Value := .set [.text "it's"]
    let mapping : Value :=
      .mapping [(.null, .list [.tuple [.set [.text [CodePoint.ofNat 0xD800]]]])]
    set.toText = "\x7b\"it's\"\x7d" ∧
      (∃ fault, ofValue set = .error fault ∧ fault.isInvalidValue = true) ∧
      ∃ fault, ofValue mapping = .error fault ∧ fault.isInvalidValue = true := by
  intro set mapping
  obtain ⟨haccepts, hset, -⟩ := ofValue_contract set
  obtain ⟨-, hmapping, hrefused⟩ := ofValue_contract mapping
  refine ⟨rfl, ?_, ?_⟩
  · obtain ⟨fault, hfault⟩ := not_exists_ok_iff.1 fun h => haccepts.1 h
    exact ⟨fault, hfault, hset fault hfault⟩
  · have hpart : ∃ part ∈ mapping.parts, part.isPlain = false :=
      ⟨.set [.text [CodePoint.ofNat 0xD800]], by
        simp [mapping, Value.parts, Value.partsOfEntries, Value.partsOfItems], rfl⟩
    obtain ⟨fault, hfault⟩ := (hrefused _ rfl).2 hpart
    exact ⟨fault, hfault, hmapping fault hfault⟩

end ClientRegistration.Metadata
