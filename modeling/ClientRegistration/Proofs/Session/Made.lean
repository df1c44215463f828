import ClientRegistration.Proofs.Session.Answers
namespace ClientRegistration

namespace Response

def entries (r : Response) : Except Fault (Fields Value Value) :=
  if r.succeeded then
    match r.document with
    | .ok (.mapping entries) => .ok entries
    | .ok _ => .error r.rejection
    | .error fault => .error (if fault.isInvalidValue then r.rejection else fault)
  else .error r.rejection

theorem entries_eq_ok_iff {r : Response} {entries : Fields Value Value} :
    r.entries = .ok entries ↔ r.entries? = some entries := by
  rw [Response.entries, entries?]
  split
  · cases r.document with
    | error fault => simp
    | ok v => cases v <;> simp
  · simp

def registration (r : Response) : Except Fault Registration := do
  Registration.ofEntries (← r.entries)

theorem registration_eq_ok_iff {r : Response} {given : Registration} :
    r.registration = .ok given ↔
      ∃ entries, r.entries? = some entries ∧ Registration.ofEntries entries = .ok given := by
  rw [registration, bind_eq_ok_iff]
  simp only [entries_eq_ok_iff]

end Response

namespace Handle

variable {σ : Type}

/-- What a handle is made of that takes the place of another one. -/
def successor (h : Handle σ) (given : Registration) : Registration where
  metadata := given.metadata
  uri := Session.orElse given.uri h.uri
  token := Session.orElse given.token h.token

/-- What an answer to a call comes to: nothing for a delete, else what a new handle is made of. -/
def answer (h : Handle σ) (call : Call) (r : Response) : Except Fault (Option Registration) :=
  match call with
  | .delete => .ok none
  | _ => (fun given => some (h.successor given)) <$> r.registration

theorem answer_eq_some_iff {h : Handle σ} {call : Call} {r : Response} {made : Registration} :
    h.answer call r = .ok (some made) ↔
      call ≠ .delete ∧ ∃ given, r.registration = .ok given ∧ h.successor given = made := by
  cases call with
  | delete => simp [answer]
  | read => simp [answer, map_eq_ok_iff]
  | update => simp [answer, map_eq_ok_iff]

end Handle

namespace Session

variable {σ : Type}

def logged (s : Session σ) (records : List LogRecord) : Session σ :=
  { s with journal := s.journal ++ records.map .logged }

theorem logged_nil (s : Session σ) : s.logged [] = s := by
  rw [logged, List.map_nil, List.append_nil]

theorem run_answerEntries_entries (s : Session σ) (r : Response) :
    ∃ records, s.run (answerEntries r) = (r.entries, s.logged records) := by
  rw [answerEntries, Response.entries]
  cases r.succeeded with
  | false => exact ⟨[.requestFailed r.status r.text], rfl⟩
  | true =>
    simp only [Bool.not_true, Bool.false_eq_true, ↓reduceIte]
    cases r.document with
    | error fault =>
      dsimp only
      cases fault.isInvalidValue with
      | true => exact ⟨[.noObject r.text], rfl⟩
      | false => exact ⟨[], by rw [logged_nil]; rfl⟩
    | ok v =>
      cases v with
      | mapping entries => exact ⟨[], by rw [logged_nil]; rfl⟩
      | _ => exact ⟨[.noObject r.text], rfl⟩

def withSuccessor (s : Session σ) (h : Handle σ) (made : Registration) : Session σ :=
  s.withHandle made.metadata made.uri made.token h.config h.registry

theorem run_parse_registration {s : Session σ} {number : Nat} {h : Handle σ}
    (found : s.handles[number]? = some h) (normal : h.registry.Normal)
    (htransport : s.variant ≠ .abstract) (r : Response) :
    ∃ records, s.run (parse number r) =
      match r.registration with
      | .ok given =>
        (.ok s.handles.length, (s.logged records).withSuccessor h (h.successor given))
      | .error fault => (.error fault, s.logged records) := by
  obtain ⟨names, hnames⟩ : ∃ names, s.variant.transportArguments = .ok names := by
    cases hvariant : s.variant with
    | abstract => exact absurd hvariant htransport
    | _ => exact ⟨_, rfl⟩
  rw [Response.registration]
  cases hentries : r.entries with
  | error fault =>
    obtain ⟨records, hrun⟩ := run_answerEntries_entries s r
    refine ⟨records, ?_⟩
    rw [parse, run_handle_bind found, run_bind, hrun, hentries]
    rfl
  | ok entries =>
    refine ⟨[.metadataUpdated (.mapping entries)], ?_⟩
    rw [run_parse found (Response.entries_eq_ok_iff.1 hentries), hnames, ok_bind]
    cases Registration.ofEntries entries with
    | error fault => rfl
    | ok given =>
      simp only [run_addHandle]
      rw [normal]
      rfl

/-- The result of an answer, and the session after it, up to log records. -/
theorem run_interpret {s : Session σ} {number : Nat} {h : Handle σ}
    (found : s.handles[number]? = some h) (normal : h.registry.Normal)
    (htransport : s.variant ≠ .abstract) (call : Call) (r : Response) :
    ∃ records, s.run (interpret number call r) =
      match h.answer call r with
      | .ok (some made) => (.ok (some s.handles.length), (s.logged records).withSuccessor h made)
      | .ok none => (.ok none, s.logged records)
      | .error fault => (.error fault, s.logged records) := by
  obtain ⟨records, hrun⟩ := run_parse_registration found normal htransport r
  have hparse : s.run (some <$> parse number r) =
      match (fun given => some (h.successor given)) <$> r.registration with
      | .ok (some made) => (.ok (some s.handles.length), (s.logged records).withSuccessor h made)
      | .ok none => (.ok none, s.logged records)
      | .error fault => (.error fault, s.logged records) := by
    rw [run_map, hrun]
    cases r.registration <;> rfl
  cases call with
  | read => exact ⟨records, hparse⟩
  | update => exact ⟨records, hparse⟩
  | delete =>
    rw [interpret, parseDelete]
    split
    · exact ⟨[.deleted], rfl⟩
    · exact ⟨[.deleteFailed r.status r.text], rfl⟩

end Session

end ClientRegistration
