import ClientRegistration.Proofs.Merge
import ClientRegistration.Proofs.Value.Surrogates
namespace ClientRegistration

namespace Metadata

/-- The fields of metadata are those of the object which its text stands for. -/
def Genuine (m : Metadata) : Prop :=
  ∃ members, Json.read m.source = .ok (.object members) ∧ m.fields = Value.fieldsOfMembers members

theorem ofSource_eq_ok_iff {source : Text} {m : Metadata} :
    ofSource source = .ok m ↔ m.source = source ∧ m.Genuine := by
  constructor
  · intro h
    obtain ⟨document, hread, h⟩ := bind_eq_ok_iff.1 h
    cases document with
    | object members =>
      cases h
      exact ⟨rfl, members, Value.readText_eq_ok_iff.1 hread, rfl⟩
    | _ => cases h
  · rintro ⟨rfl, members, hread, hfields⟩
    rw [ofSource, Value.readText_eq_ok_iff.2 hread]
    obtain ⟨source, fields⟩ := m
    cases hfields
    rfl

theorem genuine_of_ofValue {v : Value} {m : Metadata} (h : ofValue v = .ok m) : m.Genuine := by
  obtain ⟨source, -, hsource⟩ := bind_eq_ok_iff.1 h
  exact (ofSource_eq_ok_iff.1 hsource).2

theorem Genuine.ofValue_toValue {m : Metadata} (h : m.Genuine) : ofValue m.toValue = .ok m :=
  ofSource_eq_ok_iff.2 ⟨rfl, h⟩

theorem Genuine.copy_eq {m : Metadata} (h : m.Genuine) : m.copy = .ok m :=
  ofSource_eq_ok_iff.2 ⟨rfl, h⟩

theorem Genuine.exists_members {m : Metadata} (h : m.Genuine) :
    ∃ members, (Json.object members).Readable ∧ m.fields = Value.fieldsOfMembers members := by
  obtain ⟨members, hread, hfields⟩ := h
  exact ⟨members, Json.readable_of_read hread, hfields⟩

theorem Genuine.nodup_keys {m : Metadata} (h : m.Genuine) : m.fields.keys.Nodup := by
  obtain ⟨members, hreadable, hfields⟩ := h.exists_members
  rw [hfields, Value.fieldsOfMembers, Fields.keys_map]
  exact hreadable.1

theorem keys_of_ofValue {fields : Fields Text Value} (nodup : fields.keys.Nodup) {m : Metadata}
    (h : ofValue (.mapping (Value.entriesOfFields fields)) = .ok m) :
    m.fields.keys = fields.keys := by
  obtain ⟨source, hsource, hread⟩ := bind_eq_ok_iff.1 h
  obtain ⟨rfl, members, hmembers, hfields⟩ := ofSource_eq_ok_iff.1 hread
  rw [sourceOf, sourceOfEntries] at hsource
  split at hsource
  · next document hdocument =>
    have hwritten := Value.read_write_of_toJson hdocument
    rw [Value.toJson] at hdocument
    obtain ⟨written, hentries, rfl⟩ := map_eq_ok_iff.1 hdocument
    have hkeys := Value.keys_of_entriesToJson hentries
    rw [Json.collapse, Fields.collect_of_nodup] at hwritten
    · rw [← Except.ok.inj hsource, hwritten] at hmembers
      cases hmembers
      rw [hfields, Value.fieldsOfMembers, Fields.keys_map, Json.keys_collapseMembers, hkeys]
    · rwa [Json.keys_collapseMembers, hkeys]
  · cases hsource
  · cases hsource

def ofMembers (members : List (Text × Json)) : Metadata :=
  ⟨(Json.object members).write false, Value.fieldsOfMembers members⟩

theorem genuine_ofMembers {members : List (Text × Json)} (h : (Json.object members).Readable) :
    (ofMembers members).Genuine :=
  ⟨members, h.read_write, rfl⟩

theorem ofValue_ofFields {members : List (Text × Json)} (h : (Json.object members).Readable) :
    ofValue (.ofFields (Value.fieldsOfMembers members)) = .ok (ofMembers members) := by
  have hsource : sourceOf (.ofFields (Value.fieldsOfMembers members)) =
      .ok ((Json.object members).write false) := by
    have hjson := Value.toJson_ofFields h
    rw [Value.ofFields] at hjson ⊢
    rw [sourceOf, sourceOfEntries, hjson]
  rw [ofValue, hsource]
  exact ofSource_eq_ok_iff.2 ⟨rfl, genuine_ofMembers h⟩

theorem ofValue_toMapping {members : List (Text × Json)} (h : (Json.object members).Readable) :
    ofValue (ofMembers members).toMapping = .ok (ofMembers members) :=
  ofValue_ofFields h

end Metadata

theorem Json.Readable.filter {members : List (Text × Json)} (h : (Json.object members).Readable)
    (keep : Text × Json → Bool) : (Json.object (members.filter keep)).Readable := by
  refine ⟨Fields.nodup_keys_filter h.1 keep, Json.everyMember_iff.2 fun member hmem => ?_⟩
  exact Json.everyMember_iff.1 h.2 member (List.mem_filter.1 hmem).1

theorem Json.Readable.merge {current new : List (Text × Json)}
    (hcurrent : (Json.object current).Readable) (hnew : (Json.object new).Readable)
    (isPrivate : Text → Bool) : (Json.object (mergeFields isPrivate current new)).Readable := by
  refine ⟨nodup_keys_mergeFields isPrivate hcurrent.1 hnew.1,
    Json.everyMember_iff.2 fun member hmem => ?_⟩
  rcases mem_mergeFields isPrivate hmem with hheld | hadded
  · exact Json.everyMember_iff.1 hcurrent.2 member hheld
  · exact Json.everyMember_iff.1 hnew.2 member hadded

theorem Metadata.get?_merge (current new : Metadata) {key : Text}
    (hpublic : privateFields.contains key = false) :
    (current.merge new).get? key = (new.fields.get? key).or (current.fields.get? key) := by
  rw [merge, get?_mergeFields, hpublic]
  rfl

theorem Metadata.Genuine.merge_eq {current new : Metadata} (hcurrent : current.Genuine)
    (hnew : new.Genuine) :
    ∃ members, (Json.object members).Readable ∧
      current.merge new = Value.fieldsOfMembers members := by
  obtain ⟨held, hheld, hfields⟩ := hcurrent.exists_members
  obtain ⟨given, hgiven, hnewFields⟩ := hnew.exists_members
  refine ⟨mergeFields privateFields.contains held given, hheld.merge hgiven _, ?_⟩
  rw [Metadata.merge, hfields, hnewFields]
  exact mergeFields_map _ _ _ _

end ClientRegistration
