import ClientRegistration.Proofs.UpdatePayload
namespace ClientRegistration

theorem Value.eq_text_of_equals {t : Text} {v : Value} (h : (Value.text t).equals v = true) :
    v = .text t := by
  cases v <;> simp [equals, leafEquals, number?] at h
  rw [h]

namespace Metadata

/-- What counts as no change of an immutable field: nothing, null, or an equal value. -/
def LeavesAlone (proposed held : Option Value) : Prop :=
  ∀ v, proposed = some v → v = .null ∨ v.equals (held.getD .null) = true

theorem checkImmutable_eq_ok_iff {current given : Metadata} :
    current.checkImmutable given = .ok () ↔
      ∀ field ∈ immutableFields,
        LeavesAlone (given.fields.get? field) (current.fields.get? field) := by
  have hchanged : current.checkImmutable given = .ok () ↔
      changedField? (fun f => current.fields.get? f) (fun f => given.fields.get? f) = none := by
    rw [checkImmutable]
    cases changedField? (fun f => current.fields.get? f) (fun f => given.fields.get? f) <;> simp
  rw [hchanged, changedField?, List.find?_eq_none]
  refine forall₂_congr fun field _ => ?_
  cases given.fields.get? field with
  | none => simp [LeavesAlone]
  | some v => cases v <;> simp [LeavesAlone]

end Metadata

namespace Session

variable {σ : Type}

/-- When an update is prepared, and what it has for an immutable field: the entry of the new
document, if there is one, which is null or equal to the current value but need not be the same. -/
theorem prepareUpdate_identity {s : Session σ} (reachable : Reachable s) {number : Nat}
    {h : Handle σ} (found : s.handles[number]? = some h) {current given : Metadata}
    (hcurrent : s.documents[h.document]? = some current) {new : Value}
    (hnew : Metadata.ofValue new = .ok given) :
    ((∃ request, (s.run (prepareUpdate number new)).1 = .ok request) ↔
      (h.closed = false ∧ h.uri.isNull = false) ∧
      (∀ field ∈ immutableFields,
        Metadata.LeavesAlone (given.fields.get? field) (current.fields.get? field)) ∧
      (Value.ofFields (current.merge given)).holdsSurrogate = false) ∧
    ∀ request, (s.run (prepareUpdate number new)).1 = .ok request →
      ∃ fields, request.Carries h.uri fields ∧
        ∀ field ∈ immutableFields,
          let held := current.fields.get? field
          let proposed := given.fields.get? field
          fields.get? field = proposed.or held ∧
          (fields.get? field = held ↔ proposed = none ∨ proposed = held) ∧
          ∀ t, proposed = some (.text t) → held = some (.text t) := by
  obtain ⟨m, hm, hheld⟩ := reachable.sound.document h (List.mem_of_getElem? found)
  cases hcurrent.symm.trans hm
  obtain ⟨members, readable, hmerge⟩ := hheld.merge_eq (Metadata.genuine_of_ofValue hnew)
  rw [run_prepareUpdate found hcurrent, hnew, ok_bind, hmerge,
    ← h.exists_updateRequest_iff readable, ← Metadata.checkImmutable_eq_ok_iff,
    ← Handle.checkRequestAllowed_eq_ok_iff]
  constructor
  · constructor
    · rintro ⟨request, hrequest⟩
      obtain ⟨_, hallowed, hrequest⟩ := bind_eq_ok_iff.1 hrequest
      obtain ⟨_, hunchanged, hrequest⟩ := bind_eq_ok_iff.1 hrequest
      exact ⟨hallowed, hunchanged, request, hrequest⟩
    · rintro ⟨hallowed, hunchanged, request, hrequest⟩
      rw [hallowed, ok_bind, hunchanged, ok_bind, hrequest]
      exact ⟨request, rfl⟩
  · intro request hrequest
    obtain ⟨_, -, hrequest⟩ := bind_eq_ok_iff.1 hrequest
    obtain ⟨_, hunchanged, hrequest⟩ := bind_eq_ok_iff.1 hrequest
    refine ⟨_, Handle.carries_of_updateRequest readable hrequest, fun field hmem => ?_⟩
    have hpublic : privateFields.contains field = false := by
      revert field
      decide
    have hentry : (Value.fieldsOfMembers members).get? field =
        (given.fields.get? field).or (current.fields.get? field) := by
      rw [← hmerge, Metadata.get?_merge current given hpublic]
    have halone := Metadata.checkImmutable_eq_ok_iff.1 hunchanged field hmem
    refine ⟨hentry, ?_, fun t ht => ?_⟩
    · rw [hentry]
      cases given.fields.get? field with
      | none => simp
      | some v => simp
    · rcases halone (.text t) ht with hnull | hequal
      · cases hnull
      · cases hheld : current.fields.get? field with
        | none =>
          rw [hheld] at hequal
          cases Value.eq_text_of_equals hequal
        | some v =>
          rw [hheld] at hequal
          exact congrArg some (Value.eq_text_of_equals hequal)

theorem prepareUpdate_identity_of_true :
    let held : List (Text × Json) := [("client_id", .int 1)]
    let given : List (Text × Json) := [("client_id", .bool true)]
    let s := ofOneHandle .base (.repeating (.ofText 200 (.text [])))
      (Metadata.ofMembers held).toMapping (.text "u") .null
    Metadata.ofValue (Metadata.ofMembers given).toMapping = .ok (.ofMembers given) ∧
      ∃ request fields,
        (s.run (prepareUpdate 0 (Metadata.ofMembers given).toMapping)).1 = .ok request ∧
        request.Carries (.text "u") fields ∧
        fields.get? (.ofString "client_id") = some (.bool true) := by
  intro held given s
  have hheld : (Json.object held).Readable :=
    ⟨show (Fields.keys held).Nodup by decide,
      show (Nat.toDigits 10 1).length ≤ Json.maxIntegerDigits by decide, trivial⟩
  have hgiven : (Json.object given).Readable :=
    ⟨show (Fields.keys given).Nodup by decide, trivial, trivial⟩
  have hnew := Metadata.ofValue_toMapping hgiven
  have reachable : Reachable s := reachable_ofOneHandle ..
  have hs : s = _ := ofOneHandle_ofMembers _ _ hheld _ _
  clear_value s
  subst hs
  obtain ⟨hiff, hparts⟩ := @prepareUpdate_identity _ _ reachable 0 _ rfl _ _ rfl _ hnew
  have halone (field : Text) (hmem : field ∈ immutableFields) :
      Metadata.LeavesAlone ((Metadata.ofMembers given).fields.get? field)
        ((Metadata.ofMembers held).fields.get? field) := by
    intro v hv
    rcases List.mem_cons.1 hmem with rfl | hsecret
    · cases hv
      right
      change (Value.bool true).equals (.int 1) = true
      simp [Value.equals, Value.leafEquals, Value.number?, Number.equals]
    · rw [List.mem_singleton.1 hsecret] at hv
      cases hv
  obtain ⟨request, hrequest⟩ := hiff.2 ⟨⟨rfl, rfl⟩, halone, rfl⟩
  obtain ⟨fields, hcarries, hfields⟩ := hparts request hrequest
  refine ⟨hnew, request, fields, hrequest, hcarries, ?_⟩
  exact (hfields (.ofString "client_id") (by decide)).1

/-- Null takes the place of an identifier. -/
theorem prepareUpdate_replaces_identity :
    let held : List (Text × Json) := [("client_id", .text "c1")]
    let given : List (Text × Json) := [("client_id", .null)]
    let s := ofOneHandle .base (.repeating (.ofText 200 (.text [])))
      (Metadata.ofMembers held).toMapping (.text "u") .null
    Reachable s ∧ ∃ request fields,
      (s.run (prepareUpdate 0 (Metadata.ofMembers given).toMapping)).1 = .ok request ∧
      request.Carries (.text "u") fields ∧
      fields.get? (.ofString "client_id") = some .null ∧
      (Metadata.ofMembers held).fields.get? (.ofString "client_id") = some (.text "c1") := by
  intro held given s
  have hheld : (Json.object held).Readable :=
    ⟨show (Fields.keys held).Nodup by decide, trivial, trivial⟩
  have hgiven : (Json.object given).Readable :=
    ⟨show (Fields.keys given).Nodup by decide, trivial, trivial⟩
  have reachable : Reachable s := reachable_ofOneHandle ..
  have hs : s = _ := ofOneHandle_ofMembers _ _ hheld _ _
  clear_value s
  subst hs
  refine ⟨reachable, ?_⟩
  rw [@run_prepareUpdate _ _ 0 _ rfl _ rfl, Metadata.ofValue_toMapping hgiven]
  obtain ⟨request, hrequest⟩ := (Handle.exists_updateRequest_iff (σ := Unit)
    ⟨0, .text "u", .null, ⟨0, .int 0⟩, .listed [], false⟩ hgiven).2 rfl
  refine ⟨request, _, hrequest, Handle.carries_of_updateRequest hgiven hrequest, rfl, rfl⟩

end Session

end ClientRegistration
