import ClientRegistration.Proofs.Session.Operate
import ClientRegistration.Proofs.Session.Requests
namespace ClientRegistration

/-- The bytes of an update read back as the object of the merged fields. -/
structure Request.Carries (request : Request) (uri : Value) (fields : Fields Text Value) :
    Prop where
  method : request.method = .text "PUT"
  uri : request.uri = uri
  body : ∃ text members,
    (∀ kind, (Value.bytes kind request.body).toUnicode {} = .ok (some text)) ∧
    Value.readDocument (.text text) = .ok (.object members) ∧
    Value.fieldsOfMembers members = fields

namespace Handle

variable {σ : Type}

theorem updateRequest_fieldsOfMembers (h : Handle σ) {members : List (Text × Json)}
    (readable : (Json.object members).Readable) :
    h.updateRequest (Value.fieldsOfMembers members) = do
      let body ← ({} : Conversion).encode ((Json.object members).write false)
      return {
        method := .text "PUT"
        uri := h.uri
        headers :=
          [(.text "Content-Type", .text contentType), (.text "Accept", .text contentType)]
        body } := by
  have htext : (Value.ofFields (Value.fieldsOfMembers members)).toJsonText false =
      .ok ((Json.object members).write false) := by
    rw [Value.toJsonText, Value.toJson_ofFields readable]
  rw [updateRequest, htext]
  rfl

theorem exists_updateRequest_iff (h : Handle σ) {members : List (Text × Json)}
    (readable : (Json.object members).Readable) :
    (∃ request, h.updateRequest (Value.fieldsOfMembers members) = .ok request) ↔
      (Value.ofFields (Value.fieldsOfMembers members)).holdsSurrogate = false := by
  rw [← Value.ofJson_object, ← Value.hasSurrogate_write, h.updateRequest_fieldsOfMembers readable]
  constructor
  · rintro ⟨request, hrequest⟩
    obtain ⟨body, hencode, -⟩ := bind_eq_ok_iff.1 hrequest
    exact (Conversion.encode_standard_iff.1 hencode).1
  · intro clean
    rw [Conversion.encode_standard_iff.2 ⟨clean, rfl⟩]
    exact ⟨_, rfl⟩

theorem carries_of_updateRequest {h : Handle σ} {members : List (Text × Json)}
    (readable : (Json.object members).Readable) {request : Request}
    (hrequest : h.updateRequest (Value.fieldsOfMembers members) = .ok request) :
    request.Carries h.uri (Value.fieldsOfMembers members) := by
  rw [h.updateRequest_fieldsOfMembers readable] at hrequest
  obtain ⟨body, hencode, hrequest⟩ := bind_eq_ok_iff.1 hrequest
  cases hrequest
  refine ⟨rfl, rfl, (Json.object members).write false, members, fun kind => ?_, ?_, rfl⟩
  · rw [Value.toUnicode, Conversion.decode_encode hencode]
    rfl
  · exact Value.readText_eq_ok_iff.2 readable.read_write

theorem carries_authorized (h : Handle σ) {request : Request} {uri : Value}
    {fields : Fields Text Value} (carries : request.Carries uri fields) :
    (h.authorized request).Carries uri fields := by
  rw [authorized_eq]
  exact ⟨carries.method, carries.uri, carries.body⟩

end Handle

namespace Session

variable {σ : Type}

theorem exists_run_prepareUpdate {s : Session σ} {number : Nat} {h : Handle σ}
    (found : s.handles[number]? = some h) (hallowed : h.checkRequestAllowed = .ok ())
    {current given : Metadata} (hcurrent : s.documents[h.document]? = some current)
    (hheld : current.Genuine) {new : Value} (hnew : Metadata.ofValue new = .ok given)
    (himmutable : current.checkImmutable given = .ok ())
    (clean : (Value.ofFields (current.merge given)).holdsSurrogate = false) :
    ∃ request, (s.run (prepareUpdate number new)).1 = .ok request := by
  obtain ⟨members, readable, hmerge⟩ := hheld.merge_eq (Metadata.genuine_of_ofValue hnew)
  rw [hmerge] at clean
  rw [run_prepareUpdate found hcurrent, hallowed, ok_bind, hnew, ok_bind, himmutable, ok_bind,
    hmerge]
  exact (h.exists_updateRequest_iff readable).2 clean

/-- An update that goes through all checks sends the merge, field by field, as often as it is
tried. -/
theorem update_sends_merge {s : Session σ} (reachable : Reachable s)
    (hvariant : s.variant.operates = true) {number : Nat} {h : Handle σ}
    (found : s.handles[number]? = some h) (hopen : h.closed = false) (huri : h.uri.isNull = false)
    (hempty : h.registry.isEmpty = true) {current given : Metadata}
    (hcurrent : s.documents[h.document]? = some current) {new : Value}
    (hnew : Metadata.ofValue new = .ok given) (himmutable : current.checkImmutable given = .ok ())
    (clean : (Value.ofFields (current.merge given)).holdsSurrogate = false) :
    ∃ (request : Request) (count : Nat) (fields : Fields Text Value),
      (s.run (operate number .update new)).2.sent = s.sent ++ List.replicate count request ∧
      (s.refuses = false → h.token.hasLongInteger = false → 0 < count) ∧
      request.Carries h.uri fields ∧
      fields.keys = current.fields.keys.filter (fun key => !privateFields.contains key) ++
        given.fields.keys.filter
          (fun key => !privateFields.contains key && !current.fields.has key) ∧
      fields.keys.Nodup ∧
      ∀ key ∈ fields.keys,
        fields.get? key = (given.fields.get? key).or (current.fields.get? key) := by
  have hmem := List.mem_of_getElem? found
  obtain ⟨m, hm, hheld⟩ := reachable.sound.document h hmem
  cases hcurrent.symm.trans hm
  have hgiven := Metadata.genuine_of_ofValue hnew
  obtain ⟨members, readable, hmerge⟩ := hheld.merge_eq hgiven
  rw [hmerge] at clean
  obtain ⟨request, hrequest⟩ := (h.exists_updateRequest_iff readable).2 clean
  have hprepare : (s.run (prepare number .update new)).1 = .ok request := by
    rw [prepare, run_prepareUpdate found hcurrent,
      Handle.checkRequestAllowed_eq_ok_iff.2 ⟨hopen, huri⟩, ok_bind, hnew, ok_bind, himmutable,
      ok_bind, hmerge, hrequest]
  rcases operate_fails_or_issues hvariant found hempty .update new with
    ⟨fault, hfault, -⟩ | ⟨issued, hissued, hissues⟩
  · cases hprepare.symm.trans hfault
  · cases hprepare.symm.trans hissued
    obtain ⟨count, hsent, -, hpos⟩ := hissues.sent
    refine ⟨h.authorized request, count, current.merge given, hsent, hpos, ?_,
      keys_mergeFields _ _ _, nodup_keys_mergeFields _ hheld.nodup_keys hgiven.nodup_keys,
      fun key hkey => ?_⟩
    · rw [hmerge]
      exact h.carries_authorized (Handle.carries_of_updateRequest readable hrequest)
    · rw [Metadata.merge, keys_mergeFields, List.mem_append, List.mem_filter,
        List.mem_filter] at hkey
      have hpublic : privateFields.contains key = false := by
        rcases hkey with ⟨-, hheld⟩ | ⟨-, hadded⟩
        · rwa [Bool.not_eq_true'] at hheld
        · rw [Bool.and_eq_true, Bool.not_eq_true'] at hadded
          exact hadded.1
      exact Metadata.get?_merge current given hpublic

theorem update_sends_merge_of_two_fields :
    let held : List (Text × Json) := [("client_id", .text "a"), ("scope", .null)]
    let given : List (Text × Json) := [("client_name", .null), ("scope", .text "b")]
    let s := ofOneHandle .blocking (.repeating (.ofText 200 (.text [])))
      (Metadata.ofMembers held).toMapping (.text "u") .null
    s.variant.operates = true ∧ s.refuses = false ∧
      ∃ request fields,
        request ∈ (s.run (operate 0 .update (Metadata.ofMembers given).toMapping)).2.sent ∧
        request.Carries (.text "u") fields ∧
        fields.keys = (["client_id", "scope", "client_name"] : List Text) := by
  intro held given s
  have hheld : (Json.object held).Readable :=
    ⟨show (Fields.keys held).Nodup by decide, trivial, trivial, trivial⟩
  have hgiven : (Json.object given).Readable :=
    ⟨show (Fields.keys given).Nodup by decide, trivial, trivial, trivial⟩
  have reachable : Reachable s := reachable_ofOneHandle ..
  have hs : s = _ := ofOneHandle_ofMembers _ _ hheld _ _
  clear_value s
  subst hs
  obtain ⟨request, count, fields, hsent, hpos, hcarries, hkeys, -⟩ :=
    @update_sends_merge _ _ reachable rfl 0 _ rfl rfl rfl rfl _ _ rfl _
      (Metadata.ofValue_toMapping hgiven) rfl rfl
  refine ⟨rfl, rfl, request, fields, ?_, hcarries, hkeys⟩
  rw [hsent]
  exact List.mem_append_right _ (List.mem_replicate.2 ⟨(hpos rfl rfl).ne', rfl⟩)

end Session

end ClientRegistration
