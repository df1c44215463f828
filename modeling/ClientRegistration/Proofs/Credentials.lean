import ClientRegistration.Proofs.Interpretation
import ClientRegistration.Proofs.Session.Operate
import Mathlib.Logic.Function.Basic
namespace ClientRegistration

/-- Every answer has a body which is read as JSON text. -/
def Script.Textual (script : Script) : Prop :=
  ∀ count response, script.attempt count = .ok response →
    ∃ status body, response = .ofText status (.text body)

/-- Metadata has the keys of a mapping, but for credentials. The mapping has texts as keys, each of
them once. -/
def Metadata.Takes (m : Metadata) (entries : Fields Value Value) : Prop :=
  ∃ fields : Fields Text Value, entries = Value.entriesOfFields fields ∧ fields.keys.Nodup ∧
    m.fields.keys = (Registration.withoutCredentials fields).keys

theorem Registration.takes_of_ofEntries {fields : Fields Text Value} (nodup : fields.keys.Nodup)
    {given : Registration} (h : ofEntries (Value.entriesOfFields fields) = .ok given) :
    given.metadata.Takes (Value.entriesOfFields fields) :=
  ⟨fields, rfl, nodup, keys_of_ofEntries nodup h⟩

theorem Registration.takes_of_text {status : Int} {body : Text} {entries : Fields Value Value}
    (hentries : (Response.ofText status (.text body)).entries? = some entries)
    {given : Registration} (h : ofEntries entries = .ok given) : given.metadata.Takes entries := by
  obtain ⟨-, members, hread, rfl⟩ := Response.entries?_ofText_eq_some_iff.1 hentries
  refine takes_of_ofEntries ?_ h
  rw [Value.fieldsOfMembers, Fields.keys_map]
  exact (Json.readable_of_read hread).1

namespace Session

variable {σ : Type}

theorem exists_of_run_createOfResponse {s s' : Session σ} {response : Value} {config : Config}
    {filters : FilterSet σ} {made : Nat}
    (h : s.run (createOfResponse response config filters) = (.ok made, s')) :
    ∃ given registry, Registration.ofValue response = .ok given ∧ made = s.handles.length ∧
      s' = s.withHandle given.metadata given.uri given.token config registry := by
  rw [run_createOfResponse] at h
  cases hgiven : Registration.ofValue response with
  | error fault =>
    rw [hgiven] at h
    cases h
  | ok given =>
    simp only [hgiven, run_addHandle] at h
    cases hregistry : filters.normalize with
    | error fault =>
      rw [hregistry] at h
      cases h
    | ok registry =>
      rw [hregistry] at h
      cases h
      exact ⟨given, registry, rfl, rfl, rfl⟩

theorem Makes.takes {h : Handle σ} {call : Call} {s after : Session σ} {made : Nat}
    {given : Registration} (makes : Makes h call s made given after)
    (textual : after.script.Textual) {response : Response}
    (hanswer : after.script.attempt (after.attempts - 1) = .ok response)
    {entries : Fields Value Value} (hentries : response.entries? = some entries) :
    given.metadata.Takes entries := by
  obtain ⟨response', hlast, hgives⟩ := makes.answer
  cases hanswer.symm.trans hlast
  obtain ⟨-, registration, hregistration, rfl⟩ := Handle.answer_eq_some_iff.1 hgives
  obtain ⟨entries', hentries', hof⟩ := Response.registration_eq_ok_iff.1 hregistration
  cases hentries.symm.trans hentries'
  obtain ⟨status, body, rfl⟩ := textual _ _ hanswer
  have htakes : registration.metadata.Takes entries := Registration.takes_of_text hentries hof
  exact htakes

/-- The handles which come from a registration response, with the mapping each of them has been made
of. They become more by reads and updates which succeed; anything else may be done beside them that
makes no handles. -/
inductive Registered (data : Fields Value Value) : Session σ → (Nat → Fields Value Value) → Prop where
  | start {s s' : Session σ} (reachable : Reachable s) (none : s.handles = []) {response : Value}
      (hdata : response.entries? = some data) {config : Config} {filters : FilterSet σ} {made : Nat}
      (hmade : s.run (createOfResponse response config filters) = (.ok made, s')) :
      Registered data s' fun _ => data
  | birth {s : Session σ} {origin : Nat → Fields Value Value} (registered : Registered data s origin)
      {number made : Nat} {call : Call} {new : Value} {response : Response}
      {entries : Fields Value Value}
      (hmade : (s.run (operate number call new)).1 = .ok (some made))
      (hanswer : (s.run (operate number call new)).2.script.attempt
        ((s.run (operate number call new)).2.attempts - 1) = .ok response)
      (hentries : response.entries? = some entries) :
      Registered data (s.run (operate number call new)).2 (Function.update origin made entries)
  | other {s : Session σ} {origin : Nat → Fields Value Value} (registered : Registered data s origin)
      (operation : Operation σ) (allowed : operation.Allowed s)
      (hcount : (s.run operation.action).2.handles.length = s.handles.length) :
      Registered data (s.run operation.action).2 origin

namespace Registered

variable {data : Fields Value Value} {s : Session σ} {origin : Nat → Fields Value Value}

theorem reachable (registered : Registered data s origin) : Reachable s := by
  induction registered with
  | @start s s' reachable _ response _ config filters _ hmade =>
    have hrun : (s.run (discard (createOfResponse response config filters))).2 = s' := by
      rw [run_discard, hmade]
    exact hrun ▸ reachable.step (.createOfResponse response config filters) trivial
  | @birth s _ _ number _ call new _ _ _ _ _ ih =>
    have hrun := run_discard s (operate number call new)
    exact congrArg Prod.snd hrun ▸ ih.step (.operate number call new) trivial
  | other _ operation allowed _ ih => exact ih.step operation allowed

theorem exists_birth (registered : Registered data s origin) {number made : Nat} {call : Call}
    {new : Value} (hmade : (s.run (operate number call new)).1 = .ok (some made)) :
    ∃ origin', Registered data (s.run (operate number call new)).2 origin' ∧
      ∀ other < s.handles.length, origin' other = origin other := by
  obtain ⟨x, response, entries, h', -, hanswer, hentries, rfl, -⟩ :=
    succeeds_of_run_operate registered.reachable.sound hmade
  exact ⟨_, registered.birth hmade hanswer hentries, fun other hlt =>
    Function.update_of_ne hlt.ne _ _⟩

theorem takes {fields : Fields Text Value} (nodup : fields.keys.Nodup)
    (registered : Registered (Value.entriesOfFields fields) s origin)
    (textual : s.script.Textual) {number : Nat} {h : Handle σ}
    (found : s.handles[number]? = some h) :
    ∃ m, s.documents[h.document]? = some m ∧ m.Takes (origin number) := by
  induction registered generalizing number h with
  | @start s s' _ none response hdata config filters made hmade =>
    obtain ⟨given, registry, hgiven, -, rfl⟩ := exists_of_run_createOfResponse hmade
    rw [Registration.ofValue, Value.toEntries, hdata] at hgiven
    have hmem := List.mem_of_getElem? found
    rw [withHandle, none, List.nil_append, List.mem_singleton] at hmem
    subst hmem
    exact ⟨given.metadata, List.getElem?_concat_length,
      Registration.takes_of_ofEntries nodup hgiven⟩
  | @birth s origin registered parent made call new response entries hmade hanswer hentries ih =>
    obtain ⟨x, given, hx, makes⟩ := makes_of_run_operate registered.reachable.sound hmade
    have htakes := makes.takes textual hanswer hentries
    rw [(upheld_changes.operate parent call new s).script_eq] at textual
    rw [makes.handles] at found
    rw [makes.documents, makes.number]
    by_cases hnew : number = s.handles.length
    · subst hnew
      rw [List.getElem?_concat_length] at found
      cases found
      rw [Function.update_self]
      exact ⟨given.metadata, List.getElem?_concat_length, htakes⟩
    · have hlt := (List.getElem?_eq_some_iff.1 found).1
      rw [List.length_append, List.length_singleton] at hlt
      rw [List.getElem?_append_left (by omega)] at found
      obtain ⟨m, hm, htakes⟩ := ih textual found
      rw [Function.update_of_ne hnew]
      exact ⟨m, getElem?_append_of_getElem? hm _, htakes⟩
  | @other s origin registered operation allowed hcount ih =>
    have changes := operation.changes allowed
    rw [changes.script_eq] at textual
    obtain ⟨x, closed, hx, rfl⟩ := changes.handle_was hcount found
    obtain ⟨m, hm, htakes⟩ := ih textual hx
    exact ⟨m, changes.document_stays (List.mem_of_getElem? hx) hm, htakes⟩

/-- However often its client has been read and updated, a handle has the keys of the mapping it has
been made of, in their order, but for the two for the client configuration endpoint, which its
metadata never has. -/
theorem credentials_stay_out {fields : Fields Text Value} (nodup : fields.keys.Nodup)
    (registered : Registered (Value.entriesOfFields fields) s origin)
    (textual : s.script.Textual) {number : Nat} {h : Handle σ}
    (found : s.handles[number]? = some h) :
    ∃ (m : Metadata) (given : Fields Text Value), s.documents[h.document]? = some m ∧
      origin number = Value.entriesOfFields given ∧ given.keys.Nodup ∧
      m.fields.keys = given.keys.filter (fun key => !credentialFields.contains key) ∧
      ∀ field ∈ credentialFields, field ∉ m.fields.keys := by
  obtain ⟨m, hm, given, horigin, hnodup, hkeys⟩ := registered.takes nodup textual found
  refine ⟨m, given, hm, horigin, hnodup, ?_, ?_⟩
  · rw [hkeys, Registration.keys_withoutCredentials]
  · intro field hfield
    rw [hkeys]
    exact Registration.not_mem_keys_withoutCredentials given hfield

theorem credentials_stay_out_of_read :
    let data : List (Text × Json) := [("client_id", .text "c"), (uriField, .text "u")]
    let answered : List (Text × Json) := [("a", .text "x"), (tokenField, .null), ("b", .null)]
    ∃ (s : Session Unit) (origin : Nat → Fields Value Value) (h : Handle Unit) (m : Metadata),
      Registered (Value.entriesOfFields (Value.fieldsOfMembers data)) s origin ∧
      s.script.Textual ∧ s.handles[1]? = some h ∧ s.documents[h.document]? = some m ∧
      origin 1 = Value.entriesOfFields (Value.fieldsOfMembers answered) ∧
      m.fields.keys = (["a", "b"] : List Text) := by
  intro data answered
  have hdata : (Json.object data).Readable :=
    ⟨show (Fields.keys data).Nodup by decide, trivial, trivial, trivial⟩
  have hanswered : (Json.object answered).Readable :=
    ⟨show (Fields.keys answered).Nodup by decide, trivial, trivial, trivial, trivial⟩
  have hread := hanswered.read_write
  generalize (Json.object answered).write false = body at hread
  let answer := Response.ofText 200 (.text body)
  have hentries : answer.entries? = some _ := Response.entries?_ofText_eq_some_iff.2
    ⟨⟨Int.le_refl _, by decide⟩, answered, hread, rfl⟩
  let response := Value.mapping (Value.entriesOfFields (Value.fieldsOfMembers data))
  let start : Session Unit :=
    { variant := .blocking, script := .repeating answer, filterState := ()
      documents := [.ofMembers (Registration.withoutCredentials data)]
      handles := [⟨0, .text "u", .null, ⟨0, .int 0⟩, .listed [], false⟩] }
  have hstart : Session.run { variant := .blocking, script := .repeating answer, filterState := () }
      (createOfResponse response ⟨0, .int 0⟩ .absent) = (.ok 0, start) := by
    have hof : Registration.ofValue response = .ok _ := Registration.ofEntries_object hdata
    rw [run_createOfResponse, hof]
    rfl
  have registered := Registered.start (.fresh _ _ _) rfl rfl hstart
  let sent : Session Unit :=
    { start with
      attempts := 1
      journal := [.sent ⟨.text "GET", .text "u", [(.text "Accept", .text Handle.contentType)], []⟩] }
  have hsent : start.run (operate 0 .read .null) = sent.run (some <$> parse 0 answer) := rfl
  obtain ⟨record, hparse⟩ := @run_parse_object _ sent 0 _ rfl rfl nofun 200
    ⟨Int.le_refl _, by decide⟩ body _ hread
  rw [run_map, hparse] at hsent
  have born : Registered _ (start.run (operate 0 .read .null)).2 (Function.update _ 1 _) :=
    registered.birth (by rw [hsent]; rfl) (by rw [hsent]; rfl) hentries
  have textual : (start.run (operate 0 .read .null)).2.script.Textual := by
    intro count r hr
    rw [hsent] at hr
    exact ⟨200, body, (Except.ok.inj hr).symm⟩
  have found : (start.run (operate 0 .read .null)).2.handles[1]? =
      some ⟨1, .text "u", .null, ⟨0, .int 0⟩, .listed [], false⟩ := by
    rw [hsent]
    rfl
  obtain ⟨m, given, hm, horigin, -, hkeys, -⟩ := born.credentials_stay_out
    (show (Value.fieldsOfMembers data).keys.Nodup by decide) textual found
  refine ⟨_, _, _, m, born, textual, found, hm, Function.update_self .., hkeys.trans ?_⟩
  rw [Function.update_self] at horigin
  obtain rfl := Value.entriesOfFields_injective horigin
  decide

end Registered

end Session

end ClientRegistration
