import ClientRegistration.Proofs.Session.Answers
import ClientRegistration.Proofs.Session.Reachable
namespace ClientRegistration

namespace RegistrationError

theorem text?_rejected (body : Text) (status : Int) :
    (rejected (.text body) status).text? = .ok body := by
  cases body <;> rfl

end RegistrationError

namespace Session

variable {σ : Type}

theorem run_parse_refused {s : Session σ} {number : Nat} {h : Handle σ}
    (found : s.handles[number]? = some h) {status : Int} {body : Text}
    (hentries : (Response.ofText status (.text body)).entries? = none) :
    ∃ record, s.run (parse number (.ofText status (.text body))) =
      (.error (.registration (.rejected (.text body) status)),
        { s with journal := s.journal ++ [.logged record] }) := by
  have hfault : ∀ fault, (Response.ofText status (.text body)).document = .error fault →
      fault.isInvalidValue = true := by
    intro fault hdocument
    rw [Response.document_ofText] at hdocument
    split at hdocument
    · cases hdocument
    · next refusal _ =>
      cases hdocument
      cases refusal <;> rfl
  obtain ⟨record, hrun⟩ := run_answerEntries_refused hentries hfault s
  refine ⟨record, ?_⟩
  rw [parse, run_handle_bind found, run_bind, hrun]
  rfl

theorem run_parse_object {s : Session σ} {number : Nat} {h : Handle σ}
    (found : s.handles[number]? = some h) (normal : h.registry.Normal)
    (htransport : s.variant ≠ .abstract) {status : Int} (hstatus : 200 ≤ status ∧ status < 300)
    {body : Text} {members : List (Text × Json)} (hbody : Json.read body = .ok (.object members)) :
    ∃ record, s.run (parse number (.ofText status (.text body))) =
      (.ok s.handles.length,
        withHandle { s with journal := s.journal ++ [.logged record] }
          (.ofMembers (Registration.withoutCredentials members))
          ((given? ((Value.fieldsOfMembers members).get? uriField)).getD h.uri)
          ((given? ((Value.fieldsOfMembers members).get? tokenField)).getD h.token)
          h.config h.registry) := by
  have hentries := Response.entries?_ofText_eq_some_iff.2 ⟨hstatus, members, hbody, rfl⟩
  have hregistration := Registration.ofEntries_object (Json.readable_of_read hbody)
  obtain ⟨names, hnames⟩ : ∃ names, s.variant.transportArguments = .ok names := by
    cases hvariant : s.variant with
    | abstract => exact absurd hvariant htransport
    | _ => exact ⟨_, rfl⟩
  refine ⟨.metadataUpdated (.mapping (Value.entriesOfFields (Value.fieldsOfMembers members))), ?_⟩
  rw [run_parse found hentries, hregistration, hnames]
  simp only [run_addHandle, orElse_getD]
  rw [normal]

/-- An answer in text makes a handle if and only if it is accepted and its text is an object. The
new handle has the metadata, URI and token which the object gives; an answer that makes none is
refused with its text and status; the older handle and its document stay as they are. -/
theorem parse_interprets_answer {s : Session σ} (reachable : Reachable s) {number : Nat}
    {h : Handle σ} (found : s.handles[number]? = some h) (htransport : s.variant ≠ .abstract)
    (status : Int) (body : Text) :
    let outcome := s.run (parse number (.ofText status (.text body)))
    ((∃ made, outcome.1 = .ok made) ↔
      (200 ≤ status ∧ status < 300) ∧ ∃ members, Json.read body = .ok (.object members)) ∧
    (∀ made members, outcome.1 = .ok made → Json.read body = .ok (.object members) →
      let fields := Value.fieldsOfMembers members
      ∃ (h' : Handle σ) (m : Metadata), made = s.handles.length ∧
        outcome.2.handles = s.handles ++ [h'] ∧
        h'.Succeeds h (fields.get? uriField) (fields.get? tokenField) ∧
        outcome.2.documents[h'.document]? = some m ∧
        m.fields = Registration.withoutCredentials fields) ∧
    (∀ fault, outcome.1 = .error fault → ∃ e : RegistrationError, fault = .registration e ∧
      e.cls = .registrationUpdate ∧ fault.message = body ∧ e.status = some (.int status) ∧
      outcome.2.handles = s.handles ∧ outcome.2.documents = s.documents) ∧
    outcome.2.handles[number]? = some h ∧
    outcome.2.documents[h.document]? = s.documents[h.document]? ∧
    outcome.2.variant = s.variant ∧ outcome.2.script = s.script := by
  intro outcome
  obtain ⟨m, hm, -⟩ := reachable.sound.document h (List.mem_of_getElem? found)
  by_cases haccepted :
      (200 ≤ status ∧ status < 300) ∧ ∃ members, Json.read body = .ok (.object members)
  · obtain ⟨hstatus, members, hbody⟩ := haccepted
    have normal := reachable.sound.registry h (List.mem_of_getElem? found)
    obtain ⟨record, hrun⟩ := run_parse_object found normal htransport hstatus hbody
    rw [show outcome = _ from hrun]
    refine ⟨⟨fun _ => ⟨hstatus, members, hbody⟩, fun _ => ⟨_, rfl⟩⟩, ?_, ?_,
      getElem?_append_of_getElem? found _, ?_, rfl, rfl⟩
    · intro made others hmade hothers
      cases hmade
      cases hbody.symm.trans hothers
      refine ⟨_, _, rfl, rfl, ⟨rfl, rfl, rfl, rfl, rfl⟩, List.getElem?_concat_length, ?_⟩
      exact (Registration.withoutCredentials_members members).symm
    · intro fault hfault
      cases hfault
    · exact (getElem?_append_of_getElem? hm _).trans hm.symm
  · have hentries : (Response.ofText status (.text body)).entries? = none := by
      cases hentries : (Response.ofText status (.text body)).entries? with
      | none => rfl
      | some entries =>
        obtain ⟨hstatus, members, hbody, -⟩ := Response.entries?_ofText_eq_some_iff.1 hentries
        exact absurd ⟨hstatus, members, hbody⟩ haccepted
    obtain ⟨record, hrun⟩ := run_parse_refused found hentries
    rw [show outcome = _ from hrun]
    refine ⟨⟨?_, fun h => absurd h haccepted⟩, ?_, ?_, found, rfl, rfl, rfl⟩
    · rintro ⟨made, hmade⟩
      cases hmade
    · intro made members hmade
      cases hmade
    · intro fault hfault
      cases hfault
      refine ⟨_, rfl, rfl, ?_, rfl, rfl, rfl⟩
      rw [Fault.message, RegistrationError.text?_rejected]

theorem parse_interprets_answer_of_no_fields :
    let s := ofOneHandle .base (.repeating (.ofText 200 (.text "\x7b\x7d"))) .null (.text "u") .null
    let outcome := s.run (parse 0 (.ofText 200 (.text "\x7b\x7d")))
    s.variant ≠ .abstract ∧ Reachable s ∧ s.handles.length = 1 ∧
      ∃ made h', outcome.1 = .ok made ∧ outcome.2.handles = s.handles ++ [h'] ∧
        h'.uri = .text "u" := by
  intro s outcome
  have reachable : Reachable s := reachable_ofOneHandle ..
  have htransport : s.variant ≠ .abstract := by decide
  have hbody : Json.read "\x7b\x7d" = .ok (.object []) := rfl
  have found : s.handles[0]? = some ⟨0, .text "u", .null, ⟨0, .int 0⟩, .listed [], false⟩ := rfl
  obtain ⟨hmade, hparts, -⟩ := parse_interprets_answer reachable found htransport 200
    "\x7b\x7d"
  obtain ⟨made, hok⟩ := hmade.2 ⟨⟨by decide, by decide⟩, [], hbody⟩
  obtain ⟨h', m, -, hhandles, hsucceeds, -⟩ := hparts made [] hok hbody
  exact ⟨htransport, reachable, rfl, made, h', hok, hhandles, hsucceeds.uri⟩

end Session

end ClientRegistration
