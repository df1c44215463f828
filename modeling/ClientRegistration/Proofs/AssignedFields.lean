import ClientRegistration.Proofs.Session.Answers
import ClientRegistration.Proofs.UpdatePayload
namespace ClientRegistration

theorem Metadata.mem_keys_merge {current given : Metadata} {key : Text} :
    key ∈ (current.merge given).keys ↔ privateFields.contains key = false ∧
      (key ∈ current.fields.keys ∨ key ∈ given.fields.keys) := by
  rw [merge, keys_mergeFields, List.mem_append, List.mem_filter, List.mem_filter,
    ← Fields.has_iff_mem_keys key current.fields]
  cases privateFields.contains key <;> cases current.fields.has key <;> simp

/-- What a registration response in JSON gives as metadata. -/
def Metadata.OfResponse (m : Metadata) : Prop :=
  ∃ body members registration, Json.read body = .ok (.object members) ∧
    Registration.ofValue (.ofJson (.object members)) = .ok registration ∧
    registration.metadata = m

theorem Metadata.OfResponse.not_mem_keys {m : Metadata} (h : m.OfResponse) {field : Text}
    (hfield : field ∈ credentialFields) : field ∉ m.fields.keys := by
  obtain ⟨body, members, registration, hread, hregistration, rfl⟩ := h
  rw [Value.ofJson_object] at hregistration
  have hobject := Registration.ofEntries_object (Json.readable_of_read hread)
  cases hobject.symm.trans hregistration
  rw [ofMembers, ← Registration.withoutCredentials_members]
  exact Registration.not_mem_keys_withoutCredentials _ hfield

namespace Session

variable {σ : Type}

/-- No update has a field for a time which the server has assigned. It has a field for the client
configuration endpoint if and only if the current metadata or the new document has it; what a
response has given as metadata does not. -/
theorem prepareUpdate_assigned_fields {s : Session σ} (reachable : Reachable s) {number : Nat}
    {h : Handle σ} (found : s.handles[number]? = some h) {current given : Metadata}
    (hcurrent : s.documents[h.document]? = some current) {new : Value}
    (hnew : Metadata.ofValue new = .ok given) {request : Request}
    (hrequest : (s.run (prepareUpdate number new)).1 = .ok request) :
    ∃ fields, request.Carries h.uri fields ∧
      (∀ field ∈ privateFields, field ∉ fields.keys) ∧
      (∀ field ∈ credentialFields,
        (field ∈ fields.keys ↔ field ∈ current.fields.keys ∨ field ∈ given.fields.keys)) ∧
      (current.OfResponse →
        ∀ field ∈ credentialFields, (field ∈ fields.keys ↔ field ∈ given.fields.keys)) := by
  obtain ⟨m, hm, hheld⟩ := reachable.sound.document h (List.mem_of_getElem? found)
  cases hcurrent.symm.trans hm
  obtain ⟨members, readable, hmerge⟩ := hheld.merge_eq (Metadata.genuine_of_ofValue hnew)
  rw [run_prepareUpdate found hcurrent, hnew, ok_bind, hmerge] at hrequest
  obtain ⟨_, -, hrequest⟩ := bind_eq_ok_iff.1 hrequest
  obtain ⟨_, -, hrequest⟩ := bind_eq_ok_iff.1 hrequest
  have hcredential : ∀ field ∈ credentialFields,
      (field ∈ (current.merge given).keys ↔
        field ∈ current.fields.keys ∨ field ∈ given.fields.keys) := by
    intro field hfield
    have hpublic : privateFields.contains field = false := by
      revert field
      decide
    rw [Metadata.mem_keys_merge, and_iff_right hpublic]
  refine ⟨current.merge given, ?_, fun field hfield => ?_, hcredential,
    fun ofResponse field hfield => ?_⟩
  · rw [hmerge]
    exact Handle.carries_of_updateRequest readable hrequest
  · rw [Metadata.mem_keys_merge, List.contains_iff_mem.2 hfield]
    simp
  · rw [hcredential field hfield, or_iff_right (ofResponse.not_mem_keys hfield)]

theorem exists_request_of_ofOneHandle (variant : Variant) (script : Script) {uri : Value}
    (huri : uri.isNull = false) {held given : List (Text × Json)}
    (hheld : (Json.object held).Readable) (hgiven : (Json.object given).Readable)
    (hunchanged : (Metadata.ofMembers held).checkImmutable (.ofMembers given) = .ok ())
    (clean : (Value.ofFields ((Metadata.ofMembers held).merge (.ofMembers given))).holdsSurrogate =
      false) :
    let s := ofOneHandle variant script (Metadata.ofMembers held).toMapping uri .null
    ∃ request, (s.run (prepareUpdate 0 (Metadata.ofMembers given).toMapping)).1 = .ok request := by
  intro s
  let h : Handle Unit := ⟨0, uri, .null, ⟨0, .int 0⟩, .listed [], false⟩
  have hs : s = _ := ofOneHandle_ofMembers variant script hheld uri .null
  have found : s.handles[0]? = some h := by rw [hs]; rfl
  have hcurrent : s.documents[h.document]? = some (.ofMembers held) := by rw [hs]; rfl
  exact exists_run_prepareUpdate found (Handle.checkRequestAllowed_eq_ok_iff.2 ⟨rfl, huri⟩)
    hcurrent (Metadata.genuine_ofMembers hheld) (Metadata.ofValue_toMapping hgiven) hunchanged clean

theorem prepareUpdate_assigned_fields_of_own_uri :
    let held : List (Text × Json) := [("registration_client_uri", .text "u")]
    let s := ofOneHandle .base (.repeating (.ofText 200 (.text [])))
      (Metadata.ofMembers held).toMapping (.text "u") .null
    Reachable s ∧ ∃ request fields,
      (s.run (prepareUpdate 0 (Metadata.ofMembers []).toMapping)).1 = .ok request ∧
      request.Carries (.text "u") fields ∧
      uriField ∈ fields.keys ∧ tokenField ∉ fields.keys := by
  intro held s
  have hheld : (Json.object held).Readable :=
    ⟨show (Fields.keys held).Nodup by decide, trivial, trivial⟩
  have hgiven : (Json.object []).Readable := ⟨List.nodup_nil, trivial⟩
  have reachable : Reachable s := reachable_ofOneHandle ..
  obtain ⟨request, hrequest⟩ : ∃ request,
      (s.run (prepareUpdate 0 (Metadata.ofMembers []).toMapping)).1 = .ok request :=
    exists_request_of_ofOneHandle _ _ rfl hheld hgiven rfl rfl
  have hs : s = _ := ofOneHandle_ofMembers _ _ hheld _ _
  clear_value s
  subst hs
  obtain ⟨fields, hcarries, -, hcredential, -⟩ := @prepareUpdate_assigned_fields _ _ reachable 0 _
    rfl _ _ rfl _ (Metadata.ofValue_toMapping hgiven) request hrequest
  refine ⟨reachable, request, fields, hrequest, hcarries, ?_, fun htoken => ?_⟩
  · exact (hcredential uriField (by decide)).2 (.inl (by decide))
  · rcases (hcredential tokenField (by decide)).1 htoken with hheld | hgiven
    · exact absurd hheld (by decide)
    · exact absurd hgiven (by decide)

/-- A token in a new document is sent. -/
theorem prepareUpdate_sends_token :
    let held : List (Text × Json) := [("client_id", .text "c1")]
    let given : List (Text × Json) := [("registration_access_token", .text "t")]
    let s := ofOneHandle .base (.repeating (.ofText 200 (.text [])))
      (Metadata.ofMembers held).toMapping (.text "u") .null
    Reachable s ∧ ∃ request fields,
      (s.run (prepareUpdate 0 (Metadata.ofMembers given).toMapping)).1 = .ok request ∧
      request.Carries (.text "u") fields ∧
      fields = [(.ofString "client_id", .text "c1"), (tokenField, .text "t")] := by
  intro held given s
  have hheld : (Json.object held).Readable :=
    ⟨show (Fields.keys held).Nodup by decide, trivial, trivial⟩
  have hgiven : (Json.object given).Readable :=
    ⟨show (Fields.keys given).Nodup by decide, trivial, trivial⟩
  have hmerged : (Json.object (held ++ given)).Readable :=
    ⟨show (Fields.keys (held ++ given)).Nodup by decide, trivial, trivial, trivial⟩
  have reachable : Reachable s := reachable_ofOneHandle ..
  obtain ⟨request, hrequest⟩ : ∃ request,
      (s.run (prepareUpdate 0 (Metadata.ofMembers given).toMapping)).1 = .ok request :=
    exists_request_of_ofOneHandle _ _ rfl hheld hgiven rfl rfl
  have hs : s = _ := ofOneHandle_ofMembers _ _ hheld _ _
  clear_value s
  subst hs
  refine ⟨reachable, request, Value.fieldsOfMembers (held ++ given), hrequest, ?_, rfl⟩
  rw [@run_prepareUpdate _ _ 0 _ rfl _ rfl, Metadata.ofValue_toMapping hgiven] at hrequest
  exact Handle.carries_of_updateRequest hmerged hrequest

end Session

end ClientRegistration
