import ClientRegistration.Proofs.Retry
import ClientRegistration.Proofs.Selection
import ClientRegistration.Proofs.Session.Requests
namespace ClientRegistration

variable {σ α : Type}

/-- What a request has come to on its way through filters, with the context they share and the state
they keep of their own. -/
structure Passage (σ : Type) where
  state : σ
  request : Request
  context : Context

namespace Passage

def applied (p : Passage σ) (filter : RequestFilter σ) : Applied σ :=
  filter.behaviour p.state p.request p.context

def next (p : Passage σ) (filter : RequestFilter σ) : Passage σ where
  state := (p.applied filter).state
  request := (p.applied filter).request
  context := (p.applied filter).context

/-- What filters make of it one after the other. -/
def after (p : Passage σ) (filters : List (RequestFilter σ)) : Passage σ := filters.foldl next p

def Clear (p : Passage σ) (filters : List (RequestFilter σ)) : Prop :=
  ∀ i filter, filters[i]? = some filter →
    ((p.after (filters.take i)).applied filter).fault = none

structure FailsAt (p : Passage σ) (filters : List (RequestFilter σ)) (i : Nat) (fault : Fault) :
    Prop where
  before : p.Clear (filters.take i)
  fails : ∃ filter, filters[i]? = some filter ∧
    ((p.after (filters.take i)).applied filter).fault = some fault

def toApplied (p : Passage σ) (fault : Option Fault) : Applied σ :=
  ⟨p.state, p.request, p.context, fault⟩

section

variable {p : Passage σ} {filter : RequestFilter σ} {filters : List (RequestFilter σ)}

theorem clear_nil (p : Passage σ) : p.Clear [] := by
  intro i filter h
  cases h

theorem clear_cons :
    p.Clear (filter :: filters) ↔ (p.applied filter).fault = none ∧ (p.next filter).Clear filters := by
  constructor
  · intro clear
    refine ⟨clear 0 filter rfl, ?_⟩
    intro i other h
    exact clear (i + 1) other h
  · rintro ⟨first, rest⟩ i other h
    cases i with
    | zero =>
      cases h
      exact first
    | succ i => exact rest i other h

theorem failsAt_zero {fault : Fault} (h : (p.applied filter).fault = some fault) :
    p.FailsAt (filter :: filters) 0 fault :=
  ⟨clear_nil p, filter, rfl, h⟩

theorem failsAt_succ {i : Nat} {fault : Fault} :
    p.FailsAt (filter :: filters) (i + 1) fault ↔
      (p.applied filter).fault = none ∧ (p.next filter).FailsAt filters i fault := by
  constructor
  · rintro ⟨before, fails⟩
    obtain ⟨first, rest⟩ := clear_cons.1 before
    exact ⟨first, rest, fails⟩
  · rintro ⟨first, before, fails⟩
    exact ⟨clear_cons.2 ⟨first, before⟩, fails⟩

theorem clear_or_failsAt (p : Passage σ) (filters : List (RequestFilter σ)) :
    p.Clear filters ∨ ∃ i fault, p.FailsAt filters i fault := by
  induction filters generalizing p with
  | nil => exact .inl (clear_nil p)
  | cons filter rest ih =>
    cases hfault : (p.applied filter).fault with
    | some fault => exact .inr ⟨0, fault, failsAt_zero hfault⟩
    | none =>
      rcases ih (p.next filter) with clear | ⟨i, fault, fails⟩
      · exact .inl (clear_cons.2 ⟨hfault, clear⟩)
      · exact .inr ⟨i + 1, fault, failsAt_succ.2 ⟨hfault, fails⟩⟩

theorem applyInOrder_cons (hfault : (p.applied filter).fault = none)
    (rest : List (RequestFilter σ)) :
    applyInOrder (filter :: rest) p.state p.request p.context =
      let (names, last) := applyInOrder rest (p.next filter).state (p.next filter).request
        (p.next filter).context
      (filter.name :: names, last) := by
  rw [applyInOrder]
  exact if_neg (by rw [Option.not_isSome_iff_eq_none]; exact hfault)

theorem applyInOrder_of_clear (clear : p.Clear filters) :
    applyInOrder filters p.state p.request p.context =
      (filters.map (·.name), (p.after filters).toApplied none) := by
  induction filters generalizing p with
  | nil => rfl
  | cons filter rest ih =>
    obtain ⟨first, clear⟩ := clear_cons.1 clear
    rw [applyInOrder_cons first, ih clear]
    rfl

theorem applyInOrder_of_failsAt {i : Nat} {fault : Fault} (fails : p.FailsAt filters i fault) :
    applyInOrder filters p.state p.request p.context =
      ((filters.take (i + 1)).map (·.name),
        (p.after (filters.take (i + 1))).toApplied (some fault)) := by
  induction filters generalizing p i with
  | nil =>
    obtain ⟨_, h, -⟩ := fails.fails
    cases h
  | cons filter rest ih =>
    cases i with
    | zero =>
      obtain ⟨_, h, hfault⟩ := fails.fails
      cases h
      change (p.applied filter).fault = some fault at hfault
      have hleaves : p.applied filter = (p.next filter).toApplied (some fault) := by
        rw [← hfault]
        rfl
      rw [applyInOrder]
      exact (if_pos (by rw [Option.isSome_iff_exists]; exact ⟨fault, hfault⟩)).trans
        (congrArg (Prod.mk [filter.name]) hleaves)
    | succ i =>
      obtain ⟨first, fails⟩ := failsAt_succ.1 fails
      rw [applyInOrder_cons first, ih fails]
      rfl

end

end Passage

namespace Handle

section

variable {h : Handle σ} {request authorized : Request}

theorem applyFilters_eq (valid : h.registry.Valid)
    (hauthorize : h.authorize request = .ok authorized) (state : σ) :
    h.applyFilters state request =
      applyInOrder (h.registry.selected .clientConfiguration) state authorized [] := by
  have hselected := Registry.matching_eq_selected valid .clientConfiguration
  rw [applyFilters, hauthorize]
  dsimp only
  split
  · next hempty =>
    rw [Registry.matching_of_isEmpty hempty] at hselected
    rw [← Except.ok.inj hselected]
    rfl
  · rw [hselected]

theorem authorization_of_token (hauthorize : h.authorize request = .ok authorized)
    (htoken : h.token.isNull = false) :
    authorized.headers.get? (.text "Authorization") =
      some (.text ("Bearer " ++ h.token.toText)) := by
  obtain ⟨hshort, rfl⟩ := authorize_eq_ok_iff.1 hauthorize
  rw [headers_authorized hshort, htoken, if_neg Bool.false_ne_true]
  apply Fields.get?_put_of_beq_self
  rw [Value.text_beq_text, beq_self_eq_true]

theorem throughTransport_of_authorize {fault : Fault}
    (hauthorize : h.authorize request = .error fault) (variant : Variant) : Session.throughTransport variant fault = fault := by
  rw [authorize_eq] at hauthorize
  split at hauthorize
  · cases hauthorize
    cases variant <;> rfl
  · cases hauthorize

theorem eq_of_authorize (hauthorize : h.authorize request = .ok authorized) :
    authorized = { request with headers := authorized.headers } := by
  obtain ⟨-, rfl⟩ := authorize_eq_ok_iff.1 hauthorize
  exact h.authorized_eq request

end

end Handle

namespace Session

/-- Between two sessions nothing is seen but attempts to send a request, and waits. -/
structure Attempting (request : Request) (delay : Number) (s s' : Session σ) : Prop where
  visible : ∃ events, s'.visible = s.visible ++ events ∧
    ∀ event ∈ events, event = .sent request ∨ event = .waited delay
  filterState : s'.filterState = s.filterState

instance (request : Request) (delay : Number) :
    Lasting (Attempting request delay : Session σ → Session σ → Prop) where
  refl s := ⟨⟨[], (List.append_nil _).symm, by simp⟩, rfl⟩
  trans h h' := by
    obtain ⟨events, hvisible, hevents⟩ := h.visible
    obtain ⟨events', hvisible', hevents'⟩ := h'.visible
    refine ⟨⟨events ++ events', ?_, ?_⟩, h'.filterState.trans h.filterState⟩
    · rw [hvisible', hvisible, List.append_assoc]
    · intro event hmem
      rcases List.mem_append.1 hmem with hmem | hmem
      · exact hevents event hmem
      · exact hevents' event hmem

section

variable {request : Request} {delay : Number}

theorem Unseen.attempting {s s' : Session σ} (h : Unseen s s') : Attempting request delay s s' :=
  ⟨⟨[], by rw [h.visible, List.append_nil], by simp⟩, h.filterState⟩

theorem attempting_log (record : LogRecord) :
    Keeps (Attempting request delay) (log record : Action σ Unit) :=
  (unseen_log record).imp Unseen.attempting

theorem attempting_transmit :
    Keeps (Attempting request delay) (transmit request : Action σ (Except Fault Response)) := by
  intro s
  rw [run_transmit_attempted]
  refine ⟨⟨_, s.visible_attempted request delay, ?_⟩, s.filterState_attempted request⟩
  intro event hmem
  rw [attemptEvents_one] at hmem
  split at hmem
  · cases hmem
  · exact .inl (List.mem_singleton.1 hmem)

theorem attempting_wait : Keeps (Attempting request delay) (wait delay : Action σ Unit) := by
  intro s
  rw [run_wait]
  refine ⟨⟨[.waited delay], ?_, by simp⟩, rfl⟩
  rw [visible, List.filter_append]
  rfl

theorem attempting_giveUp (cause : Fault) :
    Keeps (Attempting request delay) (giveUp cause : Action σ α) := by
  intro s
  rw [run_giveUp]
  split
  · exact Lasting.refl s
  · exact attempting_log _ s

end

/-- Sending begins with an attempt, and what comes after that is more of the same. -/
theorem sendFrom_eq_transmit_bind (source : LogSource) (config : Config) (request : Request)
    (retries : Nat) :
    ∃ next, (sendFrom source config request retries : Action σ Response) =
        transmit request >>= next ∧
      ∀ result, Keeps (Attempting request config.delay) (next result) := by
  induction retries with
  | zero =>
    refine ⟨_, rfl, ?_⟩
    intro result
    cases result with
    | ok response => exact keeps_pure response
    | error cause => exact attempting_giveUp cause
  | succ retries ih =>
    obtain ⟨next, heq, hnext⟩ := ih
    refine ⟨_, rfl, ?_⟩
    intro result
    cases result with
    | ok response => exact keeps_pure response
    | error cause =>
      refine keeps_get.bind ?_
      intro s
      split
      · refine (attempting_log _).bind ?_
        intro _
        refine attempting_wait.bind ?_
        intro _
        rw [heq]
        exact attempting_transmit.bind hnext
      · exact attempting_giveUp cause

theorem visible_conclude {s : Session σ} {number : Nat} {h : Handle σ}
    (found : s.handles[number]? = some h) (source : LogSource) (call : Call) (request : Request) :
    let after := (s.run (conclude source number call request)).2
    after.filterState = s.filterState ∧ ∃ events,
      after.visible = s.visible ++ s.attemptEvents request h.config.delay 1 ++ events ∧
      ∀ event ∈ events, event = .sent request ∨ event = .waited h.config.delay := by
  obtain ⟨next, heq, hnext⟩ :=
    sendFrom_eq_transmit_bind source h.config request h.config.retryCount (σ := σ)
  rw [conclude, run_handle_bind found]
  dsimp only
  rw [heq, bind_assoc, run_bind_of_ok (run_transmit_attempted s request)]
  have hrest : Keeps (Attempting request h.config.delay)
      (do interpret number call (← next ((s.attemptAfter 0).mapError (throughTransport s.variant)))) := by
    refine (hnext _).bind ?_
    intro response
    exact (keeps_interpret unseen_log unseen_create number call response).imp Unseen.attempting
  obtain ⟨⟨events, hvisible, hevents⟩, hstate⟩ := hrest (s.attempted request)
  rw [s.visible_attempted request h.config.delay] at hvisible
  exact ⟨hstate.trans (s.filterState_attempted request), events, hvisible, hevents⟩

/-- A prepared request gets the token of its handle before any filter is called. Then the selected
filters are called, in their order and each once: each gets the request and the context as the one
before it has left them, the first one an empty context. What the last one leaves is attempted,
without any more filters. If one of them fails the next ones are not called, nothing is sent, there
is no wait, and its fault is what the operation fails with, as far as a task lets it through. A
token which can not be written is the end of the operation before that. -/
theorem Executed.filter_pipeline {s : Session σ} {number : Nat} {call : Call} {request : Request}
    {outcome : Except Fault (Option Nat) × Session σ}
    (executed : Executed s number call request outcome) {h : Handle σ}
    (found : s.handles[number]? = some h) (valid : h.registry.Valid) :
    let selected := h.registry.selected .clientConfiguration
    match h.authorize request with
    | .error fault =>
      outcome.1 = .error fault ∧ outcome.2.visible = s.visible ∧
        outcome.2.filterState = s.filterState ∧ outcome.2.handles = s.handles ∧
        outcome.2.documents = s.documents
    | .ok authorized =>
      let start : Passage σ := ⟨s.filterState, authorized, []⟩
      (start.request = { request with headers := start.request.headers } ∧
        (h.token.isNull = false → start.request.headers.get? (.text "Authorization") =
          some (.text ("Bearer " ++ h.token.toText)))) ∧
      ((start.Clear selected ∧
          let last := start.after selected
          outcome.2.filterState = last.state ∧ ∃ events,
            outcome.2.visible = s.visible ++ selected.map (fun filter => .filtered filter.name) ++
              s.attemptEvents last.request h.config.delay 1 ++ events ∧
            ∀ event ∈ events, event = .sent last.request ∨ event = .waited h.config.delay) ∨
        ∃ i fault, start.FailsAt selected i fault ∧
          outcome.1 = .error (throughTransport s.variant fault) ∧
          outcome.2.visible =
            s.visible ++ (selected.take (i + 1)).map (fun filter => .filtered filter.name) ∧
          outcome.2.filterState = (start.after (selected.take (i + 1))).state ∧
          outcome.2.handles = s.handles ∧ outcome.2.documents = s.documents) := by
  intro selected
  obtain ⟨tasks, rfl⟩ := executed.eq found
  rw [carryOutFrom_eq]
  cases hauthorize : h.authorize request with
  | error fault =>
    let applied : Applied σ := ⟨s.filterState, request, [], some fault⟩
    have happlied : h.applyFilters s.filterState request = ([], applied) := by
      rw [Handle.applyFilters, hauthorize]
    rw [run_bind_of_error (run_applyFilters found happlied)]
    refine ⟨?_, (s.visible_filtered [] applied).trans (List.append_nil _), rfl, rfl, rfl⟩
    exact congrArg Except.error (Handle.throughTransport_of_authorize hauthorize s.variant)
  | ok authorized =>
    let start : Passage σ := ⟨s.filterState, authorized, []⟩
    have happlied : h.applyFilters s.filterState request =
        applyInOrder selected start.state start.request start.context :=
      Handle.applyFilters_eq valid hauthorize s.filterState
    refine ⟨⟨Handle.eq_of_authorize hauthorize, Handle.authorization_of_token hauthorize⟩, ?_⟩
    rcases start.clear_or_failsAt selected with clear | ⟨i, fault, fails⟩
    · left
      rw [Passage.applyInOrder_of_clear clear] at happlied
      have found' : (s.filtered (selected.map (·.name)) ((start.after selected).toApplied
        none)).handles[number]? = some h := found
      obtain ⟨hstate, events, hvisible, hevents⟩ := visible_conclude found' s.variant.logSource
        call (start.after selected).request
      rw [visible_filtered, List.map_map] at hvisible
      rw [run_bind_of_ok (run_applyFilters found happlied)]
      exact ⟨clear, hstate, events, hvisible, hevents⟩
    · right
      rw [Passage.applyInOrder_of_failsAt fails] at happlied
      rw [run_bind_of_error (run_applyFilters found happlied)]
      refine ⟨i, fault, fails, rfl, ?_, rfl, rfl, rfl⟩
      have hvisible := s.visible_filtered ((selected.take (i + 1)).map (·.name))
        ((start.after (selected.take (i + 1))).toApplied (some fault))
      rw [List.map_map] at hvisible
      exact hvisible

/-- Two of three filters are for the endpoint. The second one finds what the first one has put into
the context, and both see the token. -/
theorem filter_pipeline_of_context :
    let first : RequestFilter Unit :=
      { name := "first", declared := RequestFilter.everyEndpoint
        behaviour := fun _ request context =>
          ⟨(), request, context.put (.text "seen") (.int request.headers.length), none⟩ }
    let other : RequestFilter Unit :=
      { name := "other", declared := .list [.endpoint .token]
        behaviour := fun _ request context => ⟨(), request, context, some .uncopiable⟩ }
    let last : RequestFilter Unit :=
      { name := "last", declared := .list [.text "jwks", .text "client_configuration"]
        behaviour := fun _ request context =>
          ⟨(), { request with method := .list (context.map (·.2)) }, context, none⟩ }
    let h : Handle Unit :=
      ⟨0, .text "u", .text "t", ⟨0, .int 0⟩, .listed [first, other, last], false⟩
    let s : Session Unit :=
      { variant := .blocking, script := .repeating (.ofText 200 (.text [])), filterState := ()
        handles := [h] }
    let request : Request := ⟨.text "DELETE", .text "u", [], []⟩
    let changed : Request :=
      ⟨.list [.int 1], .text "u", [(.text "Authorization", .text "Bearer t")], []⟩
    h.registry.Valid ∧ ∃ events, (s.run (carryOut 0 .delete request)).2.visible =
      [.filtered "first", .filtered "last", .sent changed] ++ events := by
  intro first other last h s request changed
  have valid : h.registry.Valid := by
    intro filter hmem
    rcases List.mem_cons.1 hmem with rfl | hmem
    · exact ⟨[.all], rfl⟩
    rcases List.mem_cons.1 hmem with rfl | hmem
    · exact ⟨[.token], rfl⟩
    · rw [List.mem_singleton.1 hmem]
      exact ⟨[.jwks, .clientConfiguration], rfl⟩
  have hselected : h.registry.selected .clientConfiguration = [first, last] := rfl
  have executed : Executed s 0 .delete request (s.run (carryOut 0 .delete request)) :=
    .carriedOut rfl
  obtain ⟨-, ⟨-, -, events, hvisible, -⟩ | ⟨i, fault, fails, -⟩⟩ :=
    executed.filter_pipeline (show s.handles[0]? = some h from rfl) valid
  · exact ⟨valid, events, hvisible⟩
  · rw [hselected] at fails
    obtain ⟨filter, hfilter, hfault⟩ := fails.fails
    match i with
    | 0 | 1 =>
      cases hfilter
      cases hfault
    | i + 2 => cases hfilter

/-- The end of an iteration, which a filter may fail with, leaves the task of an awaiting client as
another fault. -/
theorem filter_fault_replaced :
    let ending : Fault := .ofMessage .endOfIteration "StopIteration" "x"
    let filter : RequestFilter Unit :=
      { name := "f", declared := RequestFilter.everyEndpoint
        behaviour := fun _ request context => ⟨(), request, context, some ending⟩ }
    let h : Handle Unit := ⟨0, .text "u", .null, ⟨0, .int 0⟩, .listed [filter], false⟩
    let s : Session Unit :=
      { variant := .awaiting, script := .repeating (.ofText 200 (.text "\x7b\x7d"))
        filterState := (), documents := [.ofMembers []], handles := [h] }
    let request : Request := ⟨.text "GET", .text "u", [(.text "Accept", .text Handle.contentType)], []⟩
    let start : Passage Unit := ⟨(), request, []⟩
    h.authorize request = .ok request ∧ (s.run (prepare 0 .read .null)).1 = .ok request ∧
      start.FailsAt (h.registry.selected .clientConfiguration) 0 ending ∧
      (s.run (operate 0 .read .null)).1 =
        .error (.ofMessage .ordinary "RuntimeError" "coroutine raised StopIteration") ∧
      (s.run (operate 0 .read .null)).1 ≠ .error ending := by
  intro ending filter h s request start
  have hresult : (s.run (operate 0 .read .null)).1 =
      .error (.ofMessage .ordinary "RuntimeError" "coroutine raised StopIteration") := rfl
  refine ⟨rfl, rfl, Passage.failsAt_zero rfl, hresult, ?_⟩
  rw [hresult]
  intro heq
  have hname : ("RuntimeError" : Text) = "StopIteration" :=
    (ForeignFailure.mk.inj (Fault.foreign.inj (Except.error.inj heq))).1
  exact absurd hname (by decide)

end Session

end ClientRegistration
