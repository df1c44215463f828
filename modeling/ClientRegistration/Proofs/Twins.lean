import ClientRegistration.Proofs.Session.Alike
namespace ClientRegistration

/-- A transport which still takes requests after it has been released, as that of a blocking client
does. -/
def Script.GoesOn (script : Script) : Prop := ∀ releases, script.refuses releases = false

/-- A transport which refuses requests once it has been released, as that of an awaiting client
does. -/
def Script.EndsOnRelease (script : Script) : Prop :=
  ∀ releases, script.refuses releases = decide (0 < releases)

inductive Use where
  | metadata (number : Nat)
  | operate (number : Nat) (call : Call) (new : Value)
  | close (number : Nat)

namespace Session

variable {σ : Type}

def use : Use → Action σ (Option Nat)
  | .metadata number => some <$> metadata number
  | .operate number call new => operate number call new
  | .close number => do
    closeHandle number
    return none

def useAll (s : Session σ) : List Use → List (Except Fault (Option Nat)) × Session σ
  | [] => ([], s)
  | next :: rest =>
    let outcome := s.run (use next)
    let (results, after) := outcome.2.useAll rest
    (outcome.1 :: results, after)

/-- Nothing is sent where another transport would refuse it, going by the releases until then. -/
def Spares (refuses : Nat → Bool) (s : Session σ) : List Use → Prop
  | [] => True
  | next :: rest =>
    (refuses s.releases = true → (s.run (use next)).2.sent = s.sent) ∧
      (s.run (use next)).2.Spares refuses rest

theorem exists_handle_of_outgoing {s after : Session σ} {number : Nat} {call : Call} {new : Value}
    {request : Request} (h : s.run (outgoing number call new) = (.ok request, after)) :
    ∃ x, s.handles[number]? = some x := by
  have hexists := @exists_handle_of_prepare _ s number call new
  rw [outgoing, run_bind] at h
  generalize s.run (prepare number call new) = prepared at h hexists
  obtain ⟨fault | request, between⟩ := prepared
  · cases h
  · exact hexists rfl

/-- What is not sent through a transport that goes on has not come as far as to be sent. -/
theorem outgoing_fails_of_sent_eq {s : Session σ} (hvariant : s.variant = .blocking)
    (goesOn : s.script.GoesOn) {number : Nat} {call : Call} {new : Value}
    (hsent : (s.run (operate number call new)).2.sent = s.sent) :
    ∃ fault, (s.run (outgoing number call new)).1 = .error fault := by
  obtain ⟨tasks, hrun⟩ := run_operate_outgoing (by rw [hvariant]; rfl) number call new
  have hstill := quiet_outgoing number call new s
  cases houtgoing : s.run (outgoing number call new) with
  | mk result after =>
    cases result with
    | error fault => exact ⟨fault, rfl⟩
    | ok request =>
      rw [houtgoing] at hstill
      obtain ⟨h, found⟩ := exists_handle_of_outgoing houtgoing
      have found' : after.handles[number]? = some h := by rw [(hstill request).handles_eq, found]
      have hrefuses : after.refuses = false := by
        rw [(hstill request).refuses_eq, refuses, goesOn]
      obtain ⟨count, hissued, hpos⟩ := sent_conclude found' s.variant.logSource call request
      have hcount := hpos hrefuses
      rw [hrun, run_bind, houtgoing] at hsent
      have hnil : s.sent ++ List.replicate count request = s.sent ++ [] := by
        rw [List.append_nil, ← hstill.sent_eq, ← hissued, hstill.sent_eq]
        exact hsent
      have hnil := List.append_cancel_left hnil
      rw [List.replicate_eq_nil_iff] at hnil
      omega

theorem use_alike {s s' : Session σ} (alike : Alike s s') (hvariant : s.variant = .blocking)
    (hvariant' : s'.variant = .awaiting) (goesOn : s.script.GoesOn) (next : Use)
    (spares : s'.script.refuses s.releases = true → (s.run (use next)).2.sent = s.sent) :
    (s'.run (use next)).1 = (s.run (use next)).1.mapError throughTask ∧
      Alike (s.run (use next)).2 (s'.run (use next)).2 := by
  cases next with
  | metadata number =>
    obtain ⟨hresult, hafter⟩ := (mirrors_metadata number).map some alike
    have hpasses := (passing_metadata number).map some s
    exact ⟨hresult.trans hpasses.symm, hafter⟩
  | operate number call new =>
    have hreaches : s'.refuses = s.refuses ∨
        ∃ fault, (s.run (outgoing number call new)).1 = .error fault := by
      cases hrefuses : s'.script.refuses s.releases with
      | true => exact .inr (outgoing_fails_of_sent_eq hvariant goesOn (spares hrefuses))
      | false =>
        left
        rw [refuses, refuses, alike.releases, hrefuses, goesOn]
    obtain ⟨result, hresult, hresult', hafter⟩ := alike_operate alike number call new hreaches
    refine ⟨?_, hafter⟩
    rw [use, hresult, hresult', hvariant, hvariant', mapError_throughTransport_blocking]
    rfl
  | close number =>
    have hclose : Mirrors (use (.close number) : Action σ _) (use (.close number)) :=
      (mirrors_closeHandle number).bind fun _ => mirrors_pure none
    have hpasses : Passing (use (.close number) : Action σ _) :=
      (passing_closeHandle number).bind fun _ _ => rfl
    obtain ⟨hresult, hafter⟩ := hclose alike
    exact ⟨hresult.trans (hpasses s).symm, hafter⟩

theorem orderly_use (next : Use) : Orderly (use next : Action σ (Option Nat)) := by
  cases next with
  | metadata number => exact (upheld_changes.metadata number).map some
  | operate number call new => exact upheld_changes.operate number call new
  | close number => exact (orderly_closeHandle number).bind fun _ => keeps_pure none

theorem useAll_cons {s after : Session σ} {next : Use} {result : Except Fault (Option Nat)}
    (h : s.run (use next) = (result, after)) (rest : List Use) :
    s.useAll (next :: rest) = (result :: (after.useAll rest).1, (after.useAll rest).2) := by
  rw [useAll, h]

theorem useAll_alike {s s' : Session σ} (alike : Alike s s') (hvariant : s.variant = .blocking)
    (hvariant' : s'.variant = .awaiting) (goesOn : s.script.GoesOn) {uses : List Use}
    (spares : s.Spares s'.script.refuses uses) :
    (s'.useAll uses).1 = (s.useAll uses).1.map (·.mapError throughTask) ∧
      Alike (s.useAll uses).2 (s'.useAll uses).2 := by
  induction uses generalizing s s' with
  | nil => exact ⟨rfl, alike⟩
  | cons next rest ih =>
    obtain ⟨hresult, hafter⟩ := use_alike alike hvariant hvariant' goesOn next spares.1
    have changes := orderly_use next s
    have changes' := orderly_use next s'
    obtain ⟨hresults, hend⟩ := ih hafter (changes.variant_eq.trans hvariant)
      (changes'.variant_eq.trans hvariant') (changes.script_eq ▸ goesOn)
      (changes'.script_eq ▸ spares.2)
    rw [useAll_cons rfl, useAll_cons rfl]
    exact ⟨congrArg₂ List.cons hresult hresults, hend⟩

/-- A family of clients with one transport does the same with the other, as long as the blocking
ones send nothing after releases which the other transport refuses requests after: the handles, the
documents, and all that transport and filters see. So are the results, but that the end of an
iteration becomes a failure of the task. -/
theorem clients_agree {script script' : Script}
    (alike : Script.Alike .blocking .awaiting script script') (goesOn : script.GoesOn)
    (filterState : σ)
    (metadata uri token : Value) (config : Config) (filters : FilterSet σ) (uses : List Use)
    (spares : (Session.run { variant := .blocking, script, filterState }
      (create metadata uri token config filters)).2.Spares script'.refuses uses) :
    let made := Session.run { variant := .blocking, script, filterState }
      (create metadata uri token config filters)
    let made' := Session.run { variant := .awaiting, script := script', filterState }
      (create metadata uri token config filters)
    let used := made.2.useAll uses
    let used' := made'.2.useAll uses
    made'.1 = made.1 ∧ used'.1 = used.1.map (·.mapError throughTask) ∧
      used'.2.handles = used.2.handles ∧ used'.2.documents = used.2.documents ∧
      used'.2.visible = used.2.visible := by
  intro made made' used used'
  have fresh : Alike (σ := σ) { variant := .blocking, script, filterState }
      { variant := .awaiting, script := script', filterState } :=
    ⟨rfl, rfl, alike, rfl, rfl, rfl, rfl, rfl, rfl, rfl⟩
  obtain ⟨hmade, hafter⟩ := mirrors_create metadata uri token config filters fresh
  have changes := orderly_create (σ := σ) metadata uri token config filters
    { variant := .blocking, script, filterState }
  have changes' := orderly_create (σ := σ) metadata uri token config filters
    { variant := .awaiting, script := script', filterState }
  obtain ⟨hresults, hend⟩ := useAll_alike hafter changes.variant_eq changes'.variant_eq
    (changes.script_eq ▸ goesOn) (by rwa [changes'.script_eq])
  exact ⟨hmade, hresults, hend.handles, hend.documents, hend.visible⟩

theorem clients_agree_of_retry :
    let script (cause : Fault) (refuses : Nat → Bool) : Script :=
      { Script.repeating (.ofText 200 (.text "\x7b\x7d")) with
        attempt := fun count =>
          if count = 0 then .error cause else .ok (.ofText 200 (.text "\x7b\x7d"))
        refuses }
    let staying := script (.ofMessage (.noConnection .blocking) "ConnectionError" [])
      fun _ => false
    let closing := script (.ofMessage (.noConnection .awaiting) "ConnectError" [])
      fun releases => decide (0 < releases)
    let family (variant : Variant) (script : Script) : Session Unit :=
      (Session.run { variant, script, filterState := () }
        (create (.mapping []) (.text "u") .null ⟨1, .int 2⟩ .absent)).2
    let blocking := family .blocking staying
    let awaiting := family .awaiting closing
    let uses : List Use :=
      [.operate 0 .read .null, .close 0, .operate 0 .delete .null, .metadata 1]
    staying.GoesOn ∧ closing.EndsOnRelease ∧ blocking.Spares closing.refuses uses ∧
      (awaiting.useAll uses).1 = (blocking.useAll uses).1.map (·.mapError throughTask) ∧
      (blocking.useAll uses).1 =
        [.ok (some 1), .ok none, .error (.registration (.plain .closed)), .ok (some 2)] ∧
      (awaiting.useAll uses).2.visible = (blocking.useAll uses).2.visible := by
  intro script staying closing family blocking awaiting uses
  have alike : Script.Alike .blocking .awaiting staying closing := by
    refine ⟨fun count => ?_, fun _ => .released, fun _ => ⟨rfl, rfl⟩⟩
    cases count with
    | zero => exact .failed (by decide) (by decide) (by decide)
    | succ count => exact .answered _
  let held (number : Nat) : Handle Unit :=
    ⟨number, .text "u", .null, ⟨1, .int 2⟩, .listed [], false⟩
  let start : Session Unit :=
    { variant := .blocking, script := staying, filterState := ()
      documents := [.ofMembers []], handles := [held 0] }
  have hstart : blocking = start := rfl
  obtain ⟨journal, hread⟩ : ∃ journal, start.run (use (.operate 0 .read .null)) =
      (.ok (some 1), { start with
        documents := [.ofMembers [], .ofMembers []], handles := [held 0, held 1]
        attempts := 2, waits := 1, journal }) := ⟨_, rfl⟩
  have spares : blocking.Spares closing.refuses uses := by
    rw [hstart]
    refine ⟨nofun, ?_⟩
    rw [hread]
    exact ⟨nofun, fun _ => rfl, fun _ => rfl, trivial⟩
  have goesOn : staying.GoesOn := fun _ => rfl
  obtain ⟨-, hresults, -, -, hvisible⟩ := clients_agree alike goesOn () (.mapping []) (.text "u")
    .null ⟨1, .int 2⟩ .absent uses spares
  refine ⟨goesOn, fun _ => rfl, spares, hresults, ?_, hvisible⟩
  rw [hstart, useAll_cons hread, useAll_cons rfl, useAll_cons rfl, useAll_cons rfl]
  rfl

/-- A transport which ends when it is released is no more there for the others of a family once one
of them has been closed, and a filter that ends an iteration fails in another way where answers are
awaited. -/
theorem clients_part :
    let answering : Script := .repeating (.ofText 200 (.text "\x7b\x7d"))
    let closing : Script := { answering with refuses := fun releases => decide (0 < releases) }
    let family (variant : Variant) (script : Script) (filters : FilterSet Unit) : Session Unit :=
      (Session.run { variant, script, filterState := () }
        (create (.mapping []) (.text "u") .null ⟨0, .int 0⟩ filters)).2
    let ending : RequestFilter Unit :=
      { name := "f", declared := RequestFilter.everyEndpoint
        behaviour := fun _ request context =>
          ⟨(), request, context, some (.ofMessage .endOfIteration "StopIteration" [])⟩ }
    let uses : List Use := [.operate 0 .read .null, .close 0, .operate 1 .read .null]
    let reading : List Use := [.operate 0 .read .null]
    Script.Alike .blocking .awaiting answering closing ∧ answering.GoesOn ∧
      closing.EndsOnRelease ∧
      ((family .blocking answering .absent).useAll uses).1 =
        [.ok (some 1), .ok none, .ok (some 2)] ∧
      ((family .awaiting closing .absent).useAll uses).1 =
        [.ok (some 1), .ok none, .error unavailability] ∧
      ((family .blocking answering (.listed [ending])).useAll reading).1 =
        [.error (.ofMessage .endOfIteration "StopIteration" [])] ∧
      ((family .awaiting closing (.listed [ending])).useAll reading).1 =
        [.error (.ofMessage .ordinary "RuntimeError" "coroutine raised StopIteration")] := by
  intro answering closing family ending uses reading
  let held (number : Nat) : Handle Unit :=
    ⟨number, .text "u", .null, ⟨0, .int 0⟩, .listed [], false⟩
  let start (variant : Variant) (script : Script) : Session Unit :=
    { variant, script, filterState := (), documents := [.ofMembers []], handles := [held 0] }
  let read (variant : Variant) (script : Script) (tasks : List Task) (journal : List Event) :
      Session Unit :=
    { start variant script with
      documents := [.ofMembers [], .ofMembers []], handles := [held 0, held 1]
      attempts := 1, tasks, journal }
  have hstart (variant : Variant) (script : Script) :
      family variant script .absent = start variant script := rfl
  refine ⟨⟨fun _ => .answered _, fun _ => .released, fun _ => ⟨rfl, rfl⟩⟩, fun _ => rfl,
    fun _ => rfl, ?_, ?_, ?_, ?_⟩
  · obtain ⟨journal, hread⟩ : ∃ journal,
        (start .blocking answering).run (use (.operate 0 .read .null)) =
          (.ok (some 1), read .blocking answering [] journal) := ⟨_, rfl⟩
    rw [hstart, useAll_cons hread, useAll_cons rfl, useAll_cons rfl]
    rfl
  · obtain ⟨request, journal, hread⟩ : ∃ request journal,
        (start .awaiting closing).run (use (.operate 0 .read .null)) =
          (.ok (some 1), read .awaiting closing [⟨0, .read, request, .finished⟩] journal) :=
      ⟨_, _, rfl⟩
    rw [hstart, useAll_cons hread, useAll_cons rfl, useAll_cons rfl]
    rfl
  · rfl
  · rfl

end Session

end ClientRegistration
