import ClientRegistration.Proofs.Session.Changes
namespace ClientRegistration

namespace Response

/-- The entries of an answer which gives metadata. -/
def entries? (r : Response) : Option (Fields Value Value) :=
  if r.succeeded then
    match r.document with
    | .ok (.mapping entries) => some entries
    | _ => none
  else none

theorem succeeded_iff (r : Response) : r.succeeded = true ↔ 200 ≤ r.status ∧ r.status < 300 := by
  rw [succeeded, Bool.and_eq_true, decide_eq_true_eq, decide_eq_true_eq]

theorem document_ofText (status : Int) (body : Text) :
    (ofText status (.text body)).document =
      match Json.read body with
      | .ok document => .ok (Value.ofJson document)
      | .error refusal => .error (.refusedText body refusal) := by
  rw [ofText, Value.readDocument, Value.readText, Value.readTextWith]
  cases Json.read body <;> rfl

theorem entries?_ofText_eq_some_iff {status : Int} {body : Text} {entries : Fields Value Value} :
    (ofText status (.text body)).entries? = some entries ↔
      (200 ≤ status ∧ status < 300) ∧ ∃ members, Json.read body = .ok (.object members) ∧
        entries = Value.entriesOfFields (Value.fieldsOfMembers members) := by
  rw [entries?, document_ofText]
  by_cases hstatus : 200 ≤ status ∧ status < 300
  · rw [if_pos ((succeeded_iff _).2 hstatus)]
    cases Json.read body with
    | error refusal => simp
    | ok document =>
      cases document with
      | object members =>
        simp only [Value.ofJson_object, Value.ofFields]
        simp [hstatus, Value.entriesOfFields, eq_comm]
      | float x => cases x <;> simp [Value.ofJson]
      | _ => simp [Value.ofJson]
  · rw [if_neg fun h => hstatus ((succeeded_iff _).1 h)]
    simp [hstatus]

end Response

def credentialFields : List Text := [uriField, tokenField]

namespace Registration

theorem genuine_of_ofEntries {entries : Fields Value Value} {registration : Registration}
    (h : ofEntries entries = .ok registration) : registration.metadata.Genuine := by
  obtain ⟨m, hm, heq⟩ := bind_eq_ok_iff.1 h
  cases heq
  exact Metadata.genuine_of_ofValue hm

def withoutCredentials {α : Type} (fields : Fields Text α) : Fields Text α :=
  fields.filter fun (key, _) => !(key == uriField) && !(key == tokenField)

theorem keys_withoutCredentials {α : Type} (fields : Fields Text α) :
    (withoutCredentials fields).keys =
      fields.keys.filter fun key => !credentialFields.contains key := by
  have hcredential (key : Text) :
      (!(key == uriField) && !(key == tokenField)) = !credentialFields.contains key := by
    rw [Bool.eq_iff_iff]
    simp [credentialFields]
  rw [withoutCredentials,
    Fields.keys_filter_keys fun key => !(key == uriField) && !(key == tokenField)]
  simp only [hcredential]

theorem not_mem_keys_withoutCredentials {α : Type} (fields : Fields Text α) {field : Text}
    (hfield : field ∈ credentialFields) : field ∉ (withoutCredentials fields).keys := by
  rw [keys_withoutCredentials, List.mem_filter, List.contains_iff_mem.2 hfield]
  simp

theorem withoutCredentials_members (members : List (Text × Json)) :
    withoutCredentials (Value.fieldsOfMembers members) =
      Value.fieldsOfMembers (withoutCredentials members) := by
  rw [withoutCredentials, Value.fieldsOfMembers, List.filter_map]
  rfl

theorem erase_credentials {α : Type} {fields : Fields Text α} (nodup : fields.keys.Nodup) :
    (fields.erase uriField).erase tokenField = withoutCredentials fields := by
  rw [Fields.erase_of_nodup nodup, Fields.erase_of_nodup (Fields.nodup_keys_filter nodup _),
    List.filter_filter, withoutCredentials]
  congr 1
  funext field
  exact Bool.and_comm _ _

theorem erase_entries {fields : Fields Text Value} (nodup : fields.keys.Nodup) :
    ((Value.entriesOfFields fields).erase (.text uriField)).erase (.text tokenField) =
      Value.entriesOfFields (withoutCredentials fields) := by
  rw [Value.erase_entriesOfFields, Value.erase_entriesOfFields, erase_credentials nodup]

theorem keys_of_ofEntries {fields : Fields Text Value} (nodup : fields.keys.Nodup)
    {given : Registration} (h : ofEntries (Value.entriesOfFields fields) = .ok given) :
    given.metadata.fields.keys = (withoutCredentials fields).keys := by
  rw [ofEntries, erase_entries nodup] at h
  obtain ⟨m, hm, heq⟩ := bind_eq_ok_iff.1 h
  cases heq
  exact Metadata.keys_of_ofValue (Fields.nodup_keys_filter nodup _) hm

theorem ofEntries_object {members : List (Text × Json)} (h : (Json.object members).Readable) :
    ofEntries (Value.entriesOfFields (Value.fieldsOfMembers members)) = .ok {
      metadata := .ofMembers (withoutCredentials members)
      uri := ((Value.fieldsOfMembers members).get? uriField).getD .null
      token := ((Value.fieldsOfMembers members).get? tokenField).getD .null } := by
  have nodup : (Value.fieldsOfMembers members).keys.Nodup := by
    rw [Value.fieldsOfMembers, Fields.keys_map]
    exact h.1
  have hvalue : Metadata.ofValue (.mapping (Value.entriesOfFields
      (Value.fieldsOfMembers (withoutCredentials members)))) =
        .ok (.ofMembers (withoutCredentials members)) := Metadata.ofValue_ofFields (h.filter _)
  rw [ofEntries, erase_entries nodup, withoutCredentials_members, hvalue,
    Value.get?_entriesOfFields, Value.get?_entriesOfFields]
  rfl

end Registration

namespace Session

variable {σ : Type}

theorem run_answerEntries {s : Session σ} {r : Response} {entries : Fields Value Value}
    (h : r.entries? = some entries) : s.run (answerEntries r) = (.ok entries, s) := by
  unfold Response.entries? at h
  split at h
  · next hsucceeded =>
    split at h
    · next hdocument =>
      cases h
      simp only [answerEntries, hsucceeded, hdocument]
      rfl
    · cases h
  · cases h

theorem run_answerEntries_refused {r : Response} (h : r.entries? = none)
    (hfault : ∀ fault, r.document = .error fault → fault.isInvalidValue = true) (s : Session σ) :
    ∃ record, s.run (answerEntries r) =
      (.error r.rejection, { s with journal := s.journal ++ [.logged record] }) := by
  unfold Response.entries? at h
  unfold answerEntries
  split at h
  · next hsucceeded =>
    simp only [hsucceeded]
    cases hdocument : r.document with
    | error fault =>
      simp only [hfault fault hdocument]
      exact ⟨_, rfl⟩
    | ok v =>
      rw [hdocument] at h
      cases v with
      | mapping entries => cases h
      | _ => exact ⟨_, rfl⟩
  · next hsucceeded =>
    rw [Bool.not_eq_true] at hsucceeded
    simp only [hsucceeded]
    exact ⟨_, rfl⟩

theorem run_parse {s : Session σ} {number : Nat} {h : Handle σ}
    (found : s.handles[number]? = some h) {r : Response} {entries : Fields Value Value}
    (hentries : r.entries? = some entries) :
    s.run (parse number r) =
      let logged : Session σ :=
        { s with journal := s.journal ++ [.logged (.metadataUpdated (.mapping entries))] }
      match Registration.ofEntries entries, s.variant.transportArguments with
      | .error fault, _ => (.error fault, logged)
      | .ok _, .error fault => (.error fault, logged)
      | .ok registration, .ok _ =>
        logged.run (addHandle registration.metadata (orElse registration.uri h.uri)
          (orElse registration.token h.token) h.config h.registry.toFilterSet) := by
  simp only [parse, handle, run_bind, run_get, run_entry, found, run_answerEntries hentries,
    run_log, run_lift]
  cases hregistration : Registration.ofEntries entries with
  | error fault => rfl
  | ok registration =>
    have genuine := Registration.genuine_of_ofEntries hregistration
    simp only [run_discard, run_lift, run_create, genuine.ofValue_toValue]
    cases s.variant.transportArguments <;> rfl

theorem run_createOfResponse (s : Session σ) (response : Value) (config : Config)
    (filters : FilterSet σ) :
    s.run (createOfResponse response config filters) =
      match Registration.ofValue response with
      | .ok given => s.run (addHandle given.metadata given.uri given.token config filters)
      | .error fault => (.error fault, s) := by
  rw [createOfResponse, run_bind, run_lift]
  cases hgiven : Registration.ofValue response with
  | error fault => rfl
  | ok given =>
    obtain ⟨entries, -, hentries⟩ := bind_eq_ok_iff.1 hgiven
    have genuine := Registration.genuine_of_ofEntries hentries
    simp only [run_create, genuine.ofValue_toValue]

def given? (v : Option Value) : Option Value := v.filter fun v => !v.isNull

theorem orElse_getD (v : Option Value) (held : Value) :
    orElse (v.getD .null) held = (given? v).getD held := by
  cases v with
  | none => rfl
  | some v => cases hv : v.isNull <;> simp [orElse, given?, Option.filter, hv]

end Session

/-- A handle that takes the place of another one. It has the URI and the token that are given, and
all else of the older one. -/
structure Handle.Succeeds {σ : Type} (h' h : Handle σ) (uri token : Option Value) : Prop where
  isOpen : h'.closed = false
  uri : h'.uri = (Session.given? uri).getD h.uri
  token : h'.token = (Session.given? token).getD h.token
  config : h'.config = h.config
  registry : h'.registry = h.registry

end ClientRegistration
