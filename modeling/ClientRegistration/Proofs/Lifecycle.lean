import ClientRegistration.Proofs.Session.Closing
import ClientRegistration.Proofs.Session.Requests
namespace ClientRegistration

namespace Session

variable {σ : Type}

def Operation.isMark : Operation σ → Bool
  | .markClosed _ => true
  | _ => false

/-- Operations lead from one session to another one, but for marks. -/
inductive Lives (s : Session σ) : Session σ → Prop where
  | refl : Lives s s
  | step {s' : Session σ} (lives : Lives s s') (operation : Operation σ)
      (allowed : operation.Allowed s') (unmarked : operation.isMark = false) :
      Lives s (s'.run operation.action).2

theorem Lives.changes {s s' : Session σ} (lives : Lives s s') : Changes s s' := by
  induction lives with
  | refl => exact .refl
  | step _ operation allowed _ ih => exact Lasting.trans ih (operation.changes allowed)

theorem handle_stays_closed {s s' : Session σ} (lives : Lives s s') {number : Nat} {h : Handle σ}
    (found : s.handles[number]? = some h) (hclosed : h.closed = true) :
    s'.handles[number]? = some h := by
  obtain ⟨closed, hfound, hstays⟩ := lives.changes.handle_stays found
  rw [hfound, hstays hclosed, ← hclosed]

/-- The transport has been released once for each closed handle. -/
structure Counted (script : Script) (s : Session σ) : Prop where
  script : s.script = script
  released : s.released = s.handles.countP (·.closed)

theorem Grows.counted {script : Script} {s s' : Session σ} (grows : Grows s s')
    (h : Counted script s) : Counted script s' := by
  obtain ⟨added, hhandles, hopen⟩ := grows.handles
  have hnone : added.countP (·.closed) = 0 := by
    rw [List.countP_eq_zero]
    intro x hx
    rw [hopen x hx]
    exact Bool.false_ne_true
  refine ⟨grows.script.trans h.script, ?_⟩
  rw [grows.released, h.released, hhandles, List.countP_append, hnone, Nat.add_zero]

theorem Closes.counted {script : Script} {number : Nat} {h : Handle σ} {s s' : Session σ}
    (closes : Closes number h s s') (found : s.handles[number]? = some h)
    (counted : Counted script s) : Counted script s' := by
  obtain ⟨hlt, heq⟩ := List.getElem?_eq_some_iff.1 found
  refine ⟨closes.script.trans counted.script, ?_⟩
  rw [closes.released, counted.released, closes.handles, List.countP_set hlt, heq]
  cases hclosed : h.closed with
  | false => rfl
  | true =>
    have hpos : 0 < s.handles.countP (·.closed) :=
      List.countP_pos_iff.2 ⟨h, List.mem_of_getElem? found, hclosed⟩
    simp only [↓reduceIte]
    omega

theorem Operation.counted {script : Script} (releasing : script.Releasing)
    (operation : Operation σ) (unmarked : operation.isMark = false) {s : Session σ}
    (h : Counted script s) : Counted script (s.run operation.action).2 := by
  -- A session grows by all operations but two: an edit, which is of no account, and a close.
  cases plain : operation.isPlain with
  | true => exact (operation.keeps upheld_grows plain s).counted h
  | false =>
    cases operation with
    | append number key item =>
      rcases run_append s number key item with hsame | ⟨m, hedited⟩
      · rwa [hsame]
      · rw [hedited]
        exact ⟨h.script, h.released⟩
    | close number =>
      rw [action]
      by_cases hfails : s.variant.operates = false ∨ s.handles[number]? = none
      · rwa [run_closeHandle_fails hfails]
      · rw [not_or, Bool.not_eq_false, ← ne_eq, Option.ne_none_iff_exists'] at hfails
        obtain ⟨hvariant, x, found⟩ := hfails
        obtain ⟨s', hrun, closes⟩ :=
          closeHandle_closes hvariant (h.script.symm ▸ releasing) found
        rw [hrun]
        exact closes.counted found h
    | markClosed number => cases unmarked
    | _ => cases plain

theorem Lives.counted {script : Script} (releasing : script.Releasing) {s s' : Session σ}
    (lives : Lives s s') (h : Counted script s) : Counted script s' := by
  induction lives with
  | refl => exact h
  | step _ operation _ unmarked ih => exact operation.counted releasing unmarked ih

/-- A call is refused in every way it can be made, and leaves the session as it is. -/
structure Refused (s : Session σ) (number : Nat) (called : Call) (new : Value) (fault : Fault) :
    Prop where
  prepare : s.run (prepare number called new) = (.error fault, s)
  operate : s.variant.operates = true → s.run (operate number called new) = (.error fault, s)
  call : s.variant.operates = true → s.run (call number called new) = (.error fault, s)

theorem refused_of_prepare {s : Session σ} {number : Nat} {called : Call} {new : Value}
    {fault : Fault} (h : s.run (Session.prepare number called new) = (.error fault, s)) :
    Refused s number called new fault := by
  have hstart : s.run (start number called new) = (.error fault, s) := run_bind_of_error h _
  refine ⟨h, fun hvariant => ?_, fun hvariant => ?_⟩
  · rw [Session.operate, run_get_bind]
    rcases Variant.operates_iff.1 hvariant with hs | hs
    · rw [hs]
      exact run_bind_of_error h _
    · rw [hs]
      exact run_bind_of_error hstart _
  · rw [Session.call, run_get_bind]
    rcases Variant.operates_iff.1 hvariant with hs | hs
    · rw [hs]
      exact run_bind_of_error h _
    · rw [hs]
      exact hstart

theorem run_prepare_of_not_allowed {s : Session σ} {number : Nat} {h : Handle σ}
    (found : s.handles[number]? = some h) {fault : Fault}
    (hallowed : h.checkRequestAllowed = .error fault) (called : Call) (new : Value) :
    s.run (prepare number called new) = (.error fault, s) := by
  cases called with
  | read =>
    rw [prepare, prepareRead, run_handle_bind found, run_lift, Handle.readRequest, hallowed]
    rfl
  | delete =>
    rw [prepare, prepareDelete, run_handle_bind found, run_lift, Handle.deleteRequest, hallowed]
    rfl
  | update =>
    rw [prepare, prepareUpdate, run_handle_bind found]
    exact run_bind_of_error (by rw [run_lift, hallowed]) _

theorem run_prepare_update_of_refused {s : Session σ} {number : Nat} {h : Handle σ}
    (found : s.handles[number]? = some h) (hallowed : h.checkRequestAllowed = .ok ())
    {current : Metadata} (hcurrent : s.documents[h.document]? = some current) {new : Value}
    {fault : Fault}
    (hnew : (do current.checkImmutable (← Metadata.ofValue new)) = .error fault) :
    s.run (prepare number .update new) = (.error fault, s) := by
  rw [prepare, prepareUpdate, run_handle_bind found,
    run_bind_of_ok (by rw [run_lift, hallowed])]
  cases hgiven : Metadata.ofValue new with
  | error cause =>
    rw [hgiven] at hnew
    cases hnew
    exact run_bind_of_error (run_lift _ _) _
  | ok given =>
    rw [hgiven, ok_bind] at hnew
    rw [run_bind_of_ok (run_lift _ _), run_document_bind hcurrent]
    exact run_bind_of_error (by rw [run_lift, hnew]) _

theorem run_metadata_of_closed {s : Session σ} {number : Nat} {h : Handle σ}
    (found : s.handles[number]? = some h) (hclosed : h.closed = true) :
    s.run (metadata number) = (.error (.registration (.plain .closed)), s) := by
  rw [metadata, run_handle_bind found]
  exact run_bind_of_error (by rw [run_lift, Handle.checkOpen, if_pos hclosed]) _

/-- A closed handle stays what it is, and refuses everything whatever it is asked; an open one
without an endpoint refuses all calls, and any other one an update to a document which is none or
changes an immutable field. Closing a handle never fails and closes no other one, and the transport
has been released once for each closed handle, even when releases fail. -/
theorem Lives.lifecycle {variant : Variant} {script : Script} {filterState : σ} {s : Session σ}
    (lives : Lives { variant, script, filterState } s) {number : Nat} {h : Handle σ}
    (found : s.handles[number]? = some h) :
    (h.closed = true → ∀ s', Lives s s' →
      s'.handles[number]? = some h ∧
      s'.run (metadata number) = (.error (.registration (.plain .closed)), s') ∧
      ∀ called new, Refused s' number called new (.registration (.plain .closed))) ∧
    (h.closed = false → h.uri.isNull = true →
      ∀ called new, Refused s number called new (.registration (.plain .noManagementEndpoint))) ∧
    (h.closed = false → h.uri.isNull = false →
      ∀ current new fault, s.documents[h.document]? = some current →
        (do current.checkImmutable (← Metadata.ofValue new)) = .error fault →
        Refused s number .update new fault) ∧
    (script.Releasing →
      s.released = s.handles.countP (·.closed) ∧
      (s.variant.operates = true →
        ∃ s', s.run (closeHandle number) = (.ok (), s') ∧ Closes number h s s')) := by
  refine ⟨fun hclosed s' lives' => ?_, fun hopen huri called new => ?_,
    fun hopen huri current new fault hcurrent hnew => ?_, fun releasing => ?_⟩
  · have found' := handle_stays_closed lives' found hclosed
    refine ⟨found', run_metadata_of_closed found' hclosed, fun called new => ?_⟩
    refine refused_of_prepare (run_prepare_of_not_allowed found' ?_ called new)
    rw [Handle.checkRequestAllowed, Handle.checkOpen, if_pos hclosed]
    rfl
  · refine refused_of_prepare (run_prepare_of_not_allowed found ?_ called new)
    rw [Handle.checkRequestAllowed, Handle.checkOpen, hopen, huri]
    rfl
  · have hallowed := Handle.checkRequestAllowed_eq_ok_iff.2 ⟨hopen, huri⟩
    exact refused_of_prepare (run_prepare_update_of_refused found hallowed hcurrent hnew)
  · have counted : Counted script s := lives.counted releasing ⟨rfl, rfl⟩
    refine ⟨counted.released, fun hvariant => ?_⟩
    exact closeHandle_closes hvariant (counted.script.symm ▸ releasing) found

/-- A handle whose release has failed is closed, refuses a read, and is closed again without another
release. -/
theorem lifecycle_of_failed_release :
    let failure : Fault := .ofMessage (.noConnection .blocking) "ConnectionError" []
    let script : Script :=
      { Script.repeating (.ofText 200 (.text [])) with release := fun _ => some failure }
    let held := ofOneHandle .blocking script (Metadata.ofMembers []).toMapping .null .null
    let s := (held.run (Operation.close 0).action).2
    script.Releasing ∧
      s.run (operate 0 .read .null) = (.error (.registration (.plain .closed)), s) ∧
      s.released = 1 ∧
      ∃ s', s.run (closeHandle 0) = (.ok (), s') ∧ s'.released = 1 := by
  intro failure script held s
  have releasing : script.Releasing := fun count cause hcause => by cases hcause; rfl
  have lives : Lives { variant := .blocking, script, filterState := () } s :=
    .step (.step .refl (.create (Metadata.ofMembers []).toMapping .null .null ⟨0, .int 0⟩ .absent)
      trivial rfl) (.close 0) trivial rfl
  have hempty : (Json.object []).Readable := ⟨List.nodup_nil, trivial⟩
  have hheld : held = _ := ofOneHandle_ofMembers _ _ hempty _ _
  have hhandles : s.handles = [⟨0, .null, .null, ⟨0, .int 0⟩, .listed [], true⟩] := by
    simp only [s, hheld]
    rfl
  have hvariant : s.variant.operates = true := by
    simp only [s, hheld]
    rfl
  have found : s.handles[0]? = some ⟨0, .null, .null, ⟨0, .int 0⟩, .listed [], true⟩ := by
    rw [hhandles]
    rfl
  obtain ⟨hclosed, -, -, hreleases⟩ := lives.lifecycle found
  obtain ⟨hreleased, hclose⟩ := hreleases releasing
  have hone : s.released = 1 := by rw [hreleased, hhandles]; rfl
  obtain ⟨s', hrun, closes⟩ := hclose hvariant
  obtain ⟨-, -, hrefused⟩ := hclosed rfl s .refl
  exact ⟨releasing, (hrefused .read .null).operate hvariant, hone, s', hrun,
    closes.released.trans hone⟩

end Session

end ClientRegistration
