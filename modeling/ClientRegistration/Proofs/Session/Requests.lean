import ClientRegistration.Proofs.Session.Reachable
namespace ClientRegistration

structure Request.Plain (request : Request) (uri : Value) : Prop where
  uri : request.uri = uri
  headers : ∃ fields : Fields Text Value, request.headers = Value.entriesOfFields fields ∧
    fields.get? (.ofString "Authorization") = none

theorem Value.hasLongInteger_of_isNull {v : Value} (h : v.isNull = true) :
    v.hasLongInteger = false := by
  cases v with
  | null => rfl
  | _ => cases h

namespace Handle

variable {σ : Type} {h : Handle σ} {request : Request}

theorem checkRequestAllowed_eq_ok_iff :
    h.checkRequestAllowed = .ok () ↔ h.closed = false ∧ h.uri.isNull = false := by
  rw [checkRequestAllowed, checkOpen]
  cases h.closed <;> cases h.uri.isNull <;> simp [throw, throwThe, MonadExceptOf.throw]

theorem plain_of_readRequest (hrequest : h.readRequest = .ok request) : request.Plain h.uri := by
  obtain ⟨_, -, hrequest⟩ := bind_eq_ok_iff.1 hrequest
  cases hrequest
  exact ⟨rfl, [("Accept", .text contentType)], rfl, rfl⟩

theorem plain_of_deleteRequest (hrequest : h.deleteRequest = .ok request) :
    request.Plain h.uri := by
  obtain ⟨_, -, hrequest⟩ := bind_eq_ok_iff.1 hrequest
  cases hrequest
  exact ⟨rfl, [], rfl, rfl⟩

theorem plain_of_updateRequest {merged : Fields Text Value}
    (hrequest : h.updateRequest merged = .ok request) : request.Plain h.uri := by
  obtain ⟨_, -, hrequest⟩ := bind_eq_ok_iff.1 hrequest
  obtain ⟨_, -, hrequest⟩ := bind_eq_ok_iff.1 hrequest
  cases hrequest
  exact ⟨rfl, [("Content-Type", .text contentType), ("Accept", .text contentType)], rfl, rfl⟩

/-- A request as a handle authorizes it, or as it is if the token can not be written. -/
def authorized (h : Handle σ) (request : Request) : Request :=
  match h.authorize request with
  | .ok authorized => authorized
  | .error _ => request

/-- Only an integer which is too long keeps a token from being written. -/
theorem authorize_eq (h : Handle σ) (request : Request) :
    h.authorize request =
      if h.token.hasLongInteger then .error (.serialization .longInteger)
      else .ok (h.authorized request) := by
  rw [authorized, authorize, Value.shown]
  cases hnull : h.token.isNull with
  | true =>
    rw [Value.hasLongInteger_of_isNull hnull]
    rfl
  | false => cases h.token.hasLongInteger <;> rfl

theorem authorize_eq_ok_iff {sent : Request} :
    h.authorize request = .ok sent ↔
      h.token.hasLongInteger = false ∧ sent = h.authorized request := by
  rw [authorize_eq]
  cases h.token.hasLongInteger <;> simp [eq_comm]

theorem authorized_of_hasLongInteger (hlong : h.token.hasLongInteger = true) (request : Request) :
    h.authorized request = request := by
  have hfails := h.authorize_eq request
  rw [hlong, if_pos rfl] at hfails
  rw [authorized, hfails]

theorem authorized_eq (h : Handle σ) (request : Request) :
    h.authorized request = { request with headers := (h.authorized request).headers } := by
  rw [authorized, authorize]
  cases h.token.isNull with
  | true => rfl
  | false =>
    rw [Value.shown]
    cases h.token.hasLongInteger <;> rfl

theorem headers_authorized (hshort : h.token.hasLongInteger = false) (request : Request) :
    (h.authorized request).headers =
      if h.token.isNull then request.headers
      else request.headers.put (.text "Authorization") (.text ("Bearer " ++ h.token.toText)) := by
  rw [authorized, authorize, Value.shown, hshort]
  cases h.token.isNull <;> rfl

theorem authorization_authorized (plain : request.Plain h.uri)
    (hshort : h.token.hasLongInteger = false) :
    (h.authorized request).headers.get? (.text "Authorization") =
      if h.token.isNull then none else some (.text ("Bearer " ++ h.token.toText)) := by
  obtain ⟨fields, hheaders, habsent⟩ := plain.headers
  rw [headers_authorized hshort, hheaders]
  split
  · rw [Value.get?_entriesOfFields, habsent]
  · rw [Value.put_entriesOfFields, Value.get?_entriesOfFields, Fields.get?_put_self]

end Handle

namespace Session

variable {σ : Type} {s : Session σ} {number : Nat} {h : Handle σ}

/-- An update is prepared by these checks, in this order. -/
theorem run_prepareUpdate (found : s.handles[number]? = some h) {current : Metadata}
    (hcurrent : s.documents[h.document]? = some current) (new : Value) :
    (s.run (prepareUpdate number new)).1 = (do
      h.checkRequestAllowed
      let given ← Metadata.ofValue new
      current.checkImmutable given
      h.updateRequest (current.merge given)) := by
  rw [prepareUpdate, run_handle_bind found]
  simp only [run_bind, run_lift, document, run_get, run_entry, run_log]
  rcases h.checkRequestAllowed with fault | allowed
  · rfl
  · cases Metadata.ofValue new with
    | error fault => rfl
    | ok given =>
      simp only [hcurrent, ok_bind]
      cases current.checkImmutable given <;> rfl

theorem plain_of_run_prepare (sound : Sound s) (found : s.handles[number]? = some h) {call : Call}
    {new : Value} {request : Request}
    (hrun : (s.run (prepare number call new)).1 = .ok request) : request.Plain h.uri := by
  cases call with
  | read =>
    rw [prepare, prepareRead, run_handle_bind found, run_lift] at hrun
    exact Handle.plain_of_readRequest hrun
  | delete =>
    rw [prepare, prepareDelete, run_handle_bind found, run_lift] at hrun
    exact Handle.plain_of_deleteRequest hrun
  | update =>
    obtain ⟨current, hcurrent, -⟩ := sound.document h (List.mem_of_getElem? found)
    rw [prepare, run_prepareUpdate found hcurrent] at hrun
    obtain ⟨_, -, hrun⟩ := bind_eq_ok_iff.1 hrun
    obtain ⟨_, -, hrun⟩ := bind_eq_ok_iff.1 hrun
    obtain ⟨_, -, hrun⟩ := bind_eq_ok_iff.1 hrun
    exact Handle.plain_of_updateRequest hrun

end Session

end ClientRegistration
