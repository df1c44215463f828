import ClientRegistration.Proofs.UpdatePayload
namespace ClientRegistration

namespace Metadata

variable {current given : Metadata} {key : Text}

/-- What an update from one document to another has for a key, if anything. -/
def proposed (current given : Metadata) (key : Text) : Option Value :=
  if privateFields.contains key then none
  else (given.fields.get? key).or (current.fields.get? key)

theorem get?_merge_eq_proposed :
    (current.merge given).get? key = current.proposed given key :=
  get?_mergeFields _ _ _ key

theorem Genuine.holdsSurrogate_merge_iff (hcurrent : current.Genuine) (hgiven : given.Genuine) :
    (Value.ofFields (current.merge given)).holdsSurrogate = false ↔
      ∀ key v, current.proposed given key = some v →
        key.hasSurrogate = false ∧ v.holdsSurrogate = false := by
  have nodup : (current.merge given).keys.Nodup :=
    nodup_keys_mergeFields _ hcurrent.nodup_keys hgiven.nodup_keys
  simp only [Value.holdsSurrogate_ofFields, List.any_eq_false, Bool.or_eq_true, not_or,
    Bool.not_eq_true, Prod.forall, ← get?_merge_eq_proposed]
  constructor
  · intro clean key v hget
    exact clean key v (Fields.mem_of_get? hget)
  · intro clean key v hmem
    exact clean key v (Fields.get?_of_mem nodup hmem)

end Metadata

namespace Handle

variable {σ : Type}

theorem updateRequest_of_holdsSurrogate (h : Handle σ) {members : List (Text × Json)}
    (readable : (Json.object members).Readable)
    (surrogate : (Value.ofFields (Value.fieldsOfMembers members)).holdsSurrogate = true) :
    ∃ start run, h.updateRequest (Value.fieldsOfMembers members) =
      .error (.conversion (.unencodable .utf8 start run)) := by
  rw [← Value.ofJson_object, ← Value.hasSurrogate_write] at surrogate
  obtain ⟨start, run, hencode⟩ := Conversion.encode_standard_of_hasSurrogate surrogate
  rw [h.updateRequest_fieldsOfMembers readable, hencode]
  exact ⟨start, run, rfl⟩

end Handle

namespace Session

variable {σ : Type}

/-- An open handle with an endpoint prepares an update for every document that is metadata and
changes no immutable field, as long as nothing the update has for any key holds a surrogate. If
something does the update is refused, since it can not be encoded. -/
theorem prepareUpdate_sendable {s : Session σ} (reachable : Reachable s) {number : Nat}
    {h : Handle σ} (found : s.handles[number]? = some h) (hopen : h.closed = false)
    (huri : h.uri.isNull = false) {current given : Metadata}
    (hcurrent : s.documents[h.document]? = some current) {new : Value}
    (hnew : Metadata.ofValue new = .ok given)
    (himmutable : current.checkImmutable given = .ok ()) :
    let result := (s.run (prepareUpdate number new)).1
    ((∀ key v, current.proposed given key = some v →
        key.hasSurrogate = false ∧ v.holdsSurrogate = false) →
      ∃ request, result = .ok request ∧ request.Carries h.uri (current.merge given)) ∧
    ∀ key v, current.proposed given key = some v →
      (key.hasSurrogate || v.holdsSurrogate) = true →
      ∃ start run, result = .error (.conversion (.unencodable .utf8 start run)) := by
  intro result
  obtain ⟨m, hm, hheld⟩ := reachable.sound.document h (List.mem_of_getElem? found)
  cases hcurrent.symm.trans hm
  have hgiven := Metadata.genuine_of_ofValue hnew
  obtain ⟨members, readable, hmerge⟩ := hheld.merge_eq hgiven
  have hclean := hheld.holdsSurrogate_merge_iff hgiven
  have hallowed := Handle.checkRequestAllowed_eq_ok_iff.2 ⟨hopen, huri⟩
  have hresult : result = h.updateRequest (Value.fieldsOfMembers members) := by
    rw [← hmerge]
    simp only [result, run_prepareUpdate found hcurrent, hallowed, hnew, himmutable, ok_bind]
  rw [hresult]
  rw [hmerge] at hclean ⊢
  constructor
  · intro clean
    obtain ⟨request, hrequest⟩ := (h.exists_updateRequest_iff readable).2 (hclean.2 clean)
    exact ⟨request, hrequest, Handle.carries_of_updateRequest readable hrequest⟩
  · intro key v hproposed surrogate
    apply h.updateRequest_of_holdsSurrogate readable
    by_contra hnone
    obtain ⟨hkey, hv⟩ := hclean.1 (Bool.not_eq_true _ ▸ hnone) key v hproposed
    rw [hkey, hv] at surrogate
    cases surrogate

theorem prepareUpdate_sendable_of_astral :
    let held : List (Text × Json) := [("client_id", .text "c1")]
    let given : List (Text × Json) :=
      [("client_name", .array [.text [CodePoint.ofNat 0xE9, CodePoint.ofNat 0x1F600]])]
    let s := ofOneHandle .base (.repeating (.ofText 200 (.text [])))
      (Metadata.ofMembers held).toMapping (.text "u") .null
    Metadata.ofValue (Metadata.ofMembers given).toMapping = .ok (.ofMembers given) ∧
      (Metadata.ofMembers held).checkImmutable (.ofMembers given) = .ok () ∧
      ∃ request,
        (s.run (prepareUpdate 0 (Metadata.ofMembers given).toMapping)).1 = .ok request ∧
        request.Carries (.text "u") (Value.fieldsOfMembers (held ++ given)) := by
  intro held given s
  have hheld : (Json.object held).Readable :=
    ⟨show (Fields.keys held).Nodup by decide, trivial, trivial⟩
  have hgiven : (Json.object given).Readable :=
    ⟨show (Fields.keys given).Nodup by decide, ⟨trivial, trivial, trivial⟩, trivial⟩
  have hnew := Metadata.ofValue_toMapping hgiven
  have reachable : Reachable s := reachable_ofOneHandle ..
  have hs : s = _ := ofOneHandle_ofMembers _ _ hheld _ _
  clear_value s
  subst hs
  refine ⟨hnew, rfl, ?_⟩
  apply (@prepareUpdate_sendable _ _ reachable 0 _ rfl rfl rfl _ _ rfl _ hnew rfl).1
  exact ((Metadata.genuine_ofMembers hheld).holdsSurrogate_merge_iff
    (Metadata.genuine_ofMembers hgiven)).1 rfl

/-- A surrogate in a new document, which is metadata and changes no immutable field, keeps the
update from being sent. -/
theorem prepareUpdate_refuses_surrogate :
    let held : List (Text × Json) := [("client_id", .text "c1")]
    let given : List (Text × Json) := [("client_name", .text [CodePoint.ofNat 0xD800])]
    let new := (Metadata.ofMembers given).toMapping
    let s := ofOneHandle .base (.repeating (.ofText 200 (.text [])))
      (Metadata.ofMembers held).toMapping (.text "u") .null
    Reachable s ∧ s.documents = [.ofMembers held] ∧
      s.handles = [⟨0, .text "u", .null, ⟨0, .int 0⟩, .listed [], false⟩] ∧
      Metadata.ofValue new = .ok (.ofMembers given) ∧
      (Metadata.ofMembers held).checkImmutable (.ofMembers given) = .ok () ∧
      (∃ start run, (s.run (prepareUpdate 0 new)).1 =
        .error (.conversion (.unencodable .utf8 start run))) ∧
      ¬∃ request, (s.run (prepareUpdate 0 new)).1 = .ok request := by
  intro held given new s
  have hheld : (Json.object held).Readable :=
    ⟨show (Fields.keys held).Nodup by decide, trivial, trivial⟩
  have hgiven : (Json.object given).Readable :=
    ⟨show (Fields.keys given).Nodup by decide, trivial, trivial⟩
  have hmerged : (Json.object (held ++ given)).Readable :=
    ⟨show (Fields.keys (held ++ given)).Nodup by decide, trivial, trivial, trivial⟩
  have hnew := Metadata.ofValue_toMapping hgiven
  have reachable : Reachable s := reachable_ofOneHandle ..
  have hs : s = _ := ofOneHandle_ofMembers _ _ hheld _ _
  clear_value s
  subst hs
  let h : Handle Unit := ⟨0, .text "u", .null, ⟨0, .int 0⟩, .listed [], false⟩
  obtain ⟨start, run, hrefused⟩ := h.updateRequest_of_holdsSurrogate hmerged rfl
  refine ⟨reachable, rfl, rfl, hnew, rfl, ?_⟩
  rw [@run_prepareUpdate _ _ 0 _ rfl _ rfl, hnew]
  refine ⟨⟨start, run, hrefused⟩, ?_⟩
  rintro ⟨request, hrequest⟩
  cases hrefused.symm.trans hrequest

end Session

end ClientRegistration
