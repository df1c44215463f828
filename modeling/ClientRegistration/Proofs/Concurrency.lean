import ClientRegistration.Proofs.Lifecycle
import ClientRegistration.Proofs.Session.Turns
namespace ClientRegistration.Session

variable {σ : Type}

theorem run_prepare_of_held? {s : Session σ} {number : Nat} {x : Held σ}
    (held : s.held? number = some x) {call : Call} {new : Value} {request : Request}
    (hrun : (s.run (prepare number call new)).1 = .ok request) :
    x.request call new = .ok request ∧
      ∃ document, s.handles[number]? = some { x.opened with document } := by
  obtain ⟨h, m, found, hm, rfl⟩ := held?_eq_some_iff.1 held
  cases hclosed : h.closed with
  | true =>
    have hallowed : h.checkRequestAllowed = .error (.registration (.plain .closed)) := by
      rw [Handle.checkRequestAllowed, Handle.checkOpen, hclosed]
      rfl
    rw [run_prepare_of_not_allowed found hallowed] at hrun
    cases hrun
  | false =>
    have hopened : h = { (h.held m).opened with document := h.document } := by
      obtain ⟨document, uri, token, config, registry, closed⟩ := h
      cases hclosed
      rfl
    refine ⟨?_, h.document, by rw [found, ← hopened]⟩
    rw [← hrun]
    cases call with
    | read =>
      rw [prepare, prepareRead, run_handle_bind found, run_lift, hopened]
      rfl
    | delete =>
      rw [prepare, prepareDelete, run_handle_bind found, run_lift, hopened]
      rfl
    | update =>
      rw [prepare, run_prepareUpdate found hm, hopened]
      rfl

/-- A call has begun an operation. Its handle was made with these parts, and has no filters. -/
structure Started (s : Session σ) (number : Nat) (x : Held σ) (called : Call) (new : Value)
    (k : Nat) (s' : Session σ) : Prop where
  awaiting : s.variant = .awaiting
  held : s.held? number = some x
  unfiltered : x.registry = .listed []
  runs : s.run (call number called new) = (.ok k, s')

theorem Started.underway {s s' : Session σ} {number k : Nat} {x : Held σ} {called : Call}
    {new : Value} (started : Started s number x called new k s') :
    ∃ request, x.request called new = .ok request ∧
      s'.Underway k x called request .called := by
  have hruns := started.runs
  rw [call, run_get_bind, started.awaiting] at hruns
  simp only at hruns
  rw [start, run_bind] at hruns
  have hprepare := @run_prepare_of_held? _ s number x started.held called new
  have hstill := keeps_prepare quiet_log number called new s
  generalize s.run (prepare number called new) = prepared at hruns hprepare hstill
  obtain ⟨fault | request, after⟩ := prepared
  · cases hruns
  · cases hruns
    obtain ⟨hrequest, document, found⟩ := hprepare rfl
    have hsame := hstill request
    refine ⟨request, hrequest, hsame.variant_eq.trans started.awaiting, started.unfiltered, number,
      document, false, List.getElem?_concat_length, ?_⟩
    rw [hsame.handles_eq, found]
    rfl

/-- However operations take turns, each of them makes all its attempts with the request that its
call has prepared of the handle and the argument, with the token of the handle. What the transport
sees of it and what it comes to follow from how its own attempts end, so that they are the same
wherever these end in the same way; and it comes to an end when it has had turns enough. Handles
keep what they were made with all the time. -/
theorem Started.keeps_apart {s s' : Session σ} {number k : Nat} {x : Held σ} {called : Call}
    {new : Value} (started : Started s number x called new k s') (turns : List Turn) :
    let course := s'.course k turns
    ∃ request sent, x.request called new = .ok request ∧ sent = x.opened.authorized request ∧
      course.Carries sent ∧
      (∀ outcome, course.Meets outcome →
        course.events <+: (x.course called sent outcome).events ∧
        (course.result.isSome = true → course = x.course called sent outcome)) ∧
      (2 * x.config.retryCount + 2 ≤ turns.countP (·.isStepOf k) →
        course.result.isSome = true) ∧
      (∀ {r r' : Session σ} {number' k' : Nat}, Started r number' x called new k' r' →
        ∀ turns', course.Agrees (r'.course k' turns') → course.result.isSome = true →
          (r'.course k' turns').result.isSome = true → r'.course k' turns' = course) ∧
      ∀ before after, turns = before ++ after → ∀ other y,
        (s'.takeAll before).held? other = some y → (s'.takeAll turns).held? other = some y := by
  intro course
  obtain ⟨request, hrequest, underway⟩ := started.underway
  obtain ⟨stage, -, proceeds⟩ := underway.proceeds turns
  have hcourse (outcome : Nat → Ending) (meets : course.Meets outcome)
      (hsome : course.result.isSome = true) :
      course = x.course called (x.opened.authorized request) outcome :=
    (proceeds.eq_rest meets (proceeds.ends hsome)).symm
  refine ⟨request, _, hrequest, rfl, ?_, ?_, proceeds.isSome_result, ?_, ?_⟩
  · obtain ⟨outcome, meets⟩ := course.exists_meets
    exact proceeds.carries meets
  · intro outcome meets
    exact ⟨proceeds.events_prefix meets, hcourse outcome meets⟩
  · intro r r' number' k' started' turns' agrees hsome hsome'
    obtain ⟨request', hrequest', underway'⟩ := started'.underway
    cases hrequest.symm.trans hrequest'
    obtain ⟨stage', -, proceeds'⟩ := underway'.proceeds turns'
    obtain ⟨outcome, meets, meets'⟩ := agrees.exists_meets
    rw [hcourse outcome meets hsome]
    exact (proceeds'.eq_rest meets' (proceeds'.ends hsome')).symm
  · rintro before after rfl other y held
    rw [takeAll, List.foldl_append]
    exact (changes_takeAll _ after).held?_stays held

def ofLateConnection : Session Unit :=
  let failure (kind : ForeignKind) (name : Text) : Fault := .ofMessage kind name []
  let script : Script :=
    { attempt := fun count =>
        if count = 0 then .error (failure (.noConnection .awaiting) "ConnectError")
        else .ok (.ofText 200 (.text "\x7b\x7d"))
      release := fun _ => some (failure .ordinary "CloseError")
      wait := fun _ => none
      refuses := fun _ => false }
  (Session.run { variant := .awaiting, script, filterState := () }
    (Operation.create (.mapping []) (.text "u") (.text "t") ⟨1, .int 2⟩ .absent).action).2

/-- A read is tried twice, alone as well as with a delete and a close of its handle in between. -/
theorem Started.keeps_apart_of_delete_and_close :
    let x : Held Unit := ⟨.ofMembers [], .text "u", .text "t", ⟨1, .int 2⟩, .listed []⟩
    let sent := x.opened.authorized
      ⟨.text "GET", .text "u", [(.text "Accept", .text Handle.contentType)], []⟩
    let amid := ofLateConnection.take (.call 0 .delete .null)
    let s := (ofLateConnection.run (call 0 .read .null)).2
    let s' := (amid.run (call 0 .read .null)).2
    let turns : List Turn := [.step 0, .step 0, .step 0, .step 0]
    let turns' : List Turn := [.step 0, .step 1, .step 1, .step 0, .close 0, .step 1, .step 1]
    Started ofLateConnection 0 x .read .null 0 s ∧ Started amid 0 x .read .null 1 s' ∧
      (s.course 0 turns).Agrees (s'.course 1 turns') ∧
      s'.course 1 turns' = s.course 0 turns ∧
      (s.course 0 turns).events = [.sent sent, .waited (.int 2), .sent sent] ∧
      (s.course 0 turns).result = some (.ok (some x)) := by
  have started : Started ofLateConnection 0
      ⟨.ofMembers [], .text "u", .text "t", ⟨1, .int 2⟩, .listed []⟩ .read .null 0 _ :=
    ⟨rfl, rfl, rfl, rfl⟩
  have started' : Started (ofLateConnection.take (.call 0 .delete .null)) 0
      ⟨.ofMembers [], .text "u", .text "t", ⟨1, .int 2⟩, .listed []⟩ .read .null 1 _ :=
    ⟨rfl, rfl, rfl, rfl⟩
  have agrees : Course.Agrees
      ((ofLateConnection.run (call 0 .read .null)).2.course 0
        [.step 0, .step 0, .step 0, .step 0])
      (((ofLateConnection.take (.call 0 .delete .null)).run
        (call 0 .read .null)).2.course 1
          [.step 0, .step 1, .step 1, .step 0, .close 0, .step 1, .step 1]) :=
    @Course.agrees_of_endings_eq _ _ _
      [.ended (.error (.ofMessage (.noConnection .awaiting) "ConnectError" [])),
        .ended (.ok (.ofText 200 (.text "\x7b\x7d")))] rfl rfl
  obtain ⟨_, _, -, -, -, -, -, hsame, -⟩ :=
    started.keeps_apart [.step 0, .step 0, .step 0, .step 0]
  exact ⟨started, started', agrees, hsame started' _ agrees rfl rfl, rfl, rfl⟩

end ClientRegistration.Session
