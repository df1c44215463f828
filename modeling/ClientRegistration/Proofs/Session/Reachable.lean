import ClientRegistration.Proofs.Session.Changes
namespace ClientRegistration

def Script.repeating (response : Response) : Script where
  attempt _ := .ok response
  release _ := none
  wait _ := none
  refuses _ := false

namespace Session

variable {σ : Type}

/-- What callers can do. A document which a handle has is never in their hands, so that they can
edit all others only. -/
inductive Operation (σ : Type) where
  | create (document uri token : Value) (config : Config) (filters : FilterSet σ)
  | createOfResponse (response : Value) (config : Config) (filters : FilterSet σ)
  | metadata (number : Nat)
  | append (document : Nat) (key item : Value)
  | operate (number : Nat) (call : Call) (new : Value)
  | call (number : Nat) (call : Call) (new : Value)
  | stepTask (number : Nat)
  | awaitCall (number : Nat)
  | close (number : Nat)
  | markClosed (number : Nat)
  | prepare (number : Nat) (call : Call) (new : Value)
  | applyToPrepared (number prepared : Nat)
  | parse (number : Nat) (response : Response)
  | parseDelete (response : Response)

namespace Operation

def action : Operation σ → Action σ Unit
  | .create document uri token config filters =>
    discard (Session.create document uri token config filters)
  | .createOfResponse response config filters =>
    discard (Session.createOfResponse response config filters)
  | .metadata number => discard (Session.metadata number)
  | .append document key item => appendToDocument document key item
  | .operate number called new => discard (Session.operate number called new)
  | .call number called new => discard (Session.call number called new)
  | .stepTask number => discard (Session.stepTask number)
  | .awaitCall number => discard (Session.awaitCall number)
  | .close number => closeHandle number
  | .markClosed number => Session.markClosed number
  | .prepare number called new => do discard (addRequest (← Session.prepare number called new))
  | .applyToPrepared number prepared => discard (Session.applyToPrepared number prepared)
  | .parse number response => discard (Session.parse number response)
  | .parseDelete response => Session.parseDelete response

def Allowed (s : Session σ) : Operation σ → Prop
  | .append document _ _ => ∀ h ∈ s.handles, h.document ≠ document
  | _ => True

def isPlain : Operation σ → Bool
  | .append .. | .close _ | .markClosed _ => false
  | _ => true

theorem keeps {R : Session σ → Session σ → Prop} [Lasting R] (upheld : Upheld R)
    {operation : Operation σ} (plain : operation.isPlain = true) : Keeps R operation.action := by
  cases operation with
  | create document uri token config filters =>
    exact (upheld.create document uri token config filters).map _
  | createOfResponse response config filters =>
    exact (upheld.createOfResponse response config filters).map _
  | metadata number => exact (upheld.metadata number).map _
  | operate number called new => exact (upheld.operate number called new).map _
  | call number called new => exact (upheld.call number called new).map _
  | stepTask number => exact (upheld.stepTask number).map _
  | awaitCall number => exact (upheld.awaitCall number).map _
  | prepare number called new => exact upheld.prepared number called new
  | applyToPrepared number prepared => exact (upheld.applyToPrepared number prepared).map _
  | parse number response => exact (keeps_parse upheld.log upheld.create number response).map _
  | parseDelete response => exact keeps_parseDelete upheld.log response
  | append => cases plain
  | close => cases plain
  | markClosed => cases plain

theorem run_append (s : Session σ) (number : Nat) (key item : Value) :
    (s.run (append number key item).action).2 = s ∨
      ∃ m, (s.run (append number key item).action).2 =
        { s with documents := s.documents.set number m } := by
  simp only [action, appendToDocument, document, run_bind, run_get, run_entry]
  cases s.documents[number]? with
  | none => exact .inl rfl
  | some m =>
    simp only [run_lift]
    cases m.append key item with
    | error fault => exact .inl rfl
    | ok changed => exact .inr ⟨changed, rfl⟩

theorem changes (operation : Operation σ) {s : Session σ} (allowed : operation.Allowed s) :
    Changes s (s.run operation.action).2 := by
  cases plain : operation.isPlain with
  | true => exact keeps upheld_changes plain s
  | false =>
    cases operation with
    | append number key item =>
      rcases run_append s number key item with hsame | ⟨m, hedited⟩
      · rw [hsame]
        exact .refl
      · rw [hedited]
        exact .single (.edit s allowed m)
    | close number => exact orderly_closeHandle number s
    | markClosed number => exact orderly_markClosed number s
    | _ => cases plain

end Operation

/-- The sessions which operations lead to from one without any handles. The filters which a handle
holds in a list can be added to. -/
inductive Reachable : Session σ → Prop where
  | fresh (variant : Variant) (script : Script) (filterState : σ) :
      Reachable { variant, script, filterState }
  | step {s : Session σ} (reachable : Reachable s) (operation : Operation σ)
      (allowed : operation.Allowed s) : Reachable (s.run operation.action).2
  | filter {s : Session σ} (reachable : Reachable s) (number : Nat) (filter : RequestFilter σ) :
      Reachable (s.run (appendFilter number filter)).2

def ofOneHandle (variant : Variant) (script : Script) (metadata uri token : Value) :
    Session Unit :=
  (Session.run { variant, script, filterState := () }
    (Operation.create metadata uri token ⟨0, .int 0⟩ .absent).action).2

theorem reachable_ofOneHandle (variant : Variant) (script : Script) (metadata uri token : Value) :
    Reachable (ofOneHandle variant script metadata uri token) :=
  .step (.fresh variant script ()) (.create metadata uri token ⟨0, .int 0⟩ .absent) trivial

theorem ofOneHandle_ofMembers (variant : Variant) (script : Script) {members : List (Text × Json)}
    (readable : (Json.object members).Readable) (uri token : Value) :
    ofOneHandle variant script (Metadata.ofMembers members).toMapping uri token =
      { variant, script, filterState := ()
        documents := [.ofMembers members]
        handles := [⟨0, uri, token, ⟨0, .int 0⟩, .listed [], false⟩] } := by
  rw [ofOneHandle, Operation.action, run_discard, run_create, Metadata.ofValue_toMapping readable]
  rfl

theorem getElem?_append_of_getElem? {α : Type} {entries : List α} {number : Nat} {a : α}
    (h : entries[number]? = some a) (more : List α) : (entries ++ more)[number]? = some a := by
  rw [List.getElem?_append_left (List.getElem?_eq_some_iff.1 h).1, h]

/-- Every handle has a document, which is genuine, and filters that are taken over as they are. -/
structure Sound (s : Session σ) : Prop where
  document : ∀ h ∈ s.handles, ∃ m, s.documents[h.document]? = some m ∧ m.Genuine
  registry : ∀ h ∈ s.handles, h.registry.Normal

theorem Change.sound {s s' : Session σ} (change : Change s s') (h : Sound s) : Sound s' := by
  cases change with
  | aside handles documents =>
    refine ⟨fun x hx => ?_, fun x hx => h.registry x (handles ▸ hx)⟩
    rw [documents]
    exact h.document x (handles ▸ hx)
  | document m =>
    refine ⟨fun x hx => ?_, h.registry⟩
    obtain ⟨held, hheld, genuine⟩ := h.document x hx
    exact ⟨held, getElem?_append_of_getElem? hheld _, genuine⟩
  | @handle m genuine uri token config registry normal =>
    constructor
    · intro x hx
      rcases List.mem_append.1 hx with hold | hnew
      · obtain ⟨held, hheld, genuine⟩ := h.document x hold
        exact ⟨held, getElem?_append_of_getElem? hheld _, genuine⟩
      · rw [List.mem_singleton.1 hnew]
        exact ⟨m, List.getElem?_concat_length, genuine⟩
    · intro x hx
      rcases List.mem_append.1 hx with hold | hnew
      · exact h.registry x hold
      · rw [List.mem_singleton.1 hnew]
        exact normal
  | @close number x found =>
    have hmem := List.mem_of_getElem? found
    constructor
    · intro y hy
      rcases List.mem_or_eq_of_mem_set hy with hold | rfl
      · exact h.document y hold
      · exact h.document x hmem
    · intro y hy
      rcases List.mem_or_eq_of_mem_set hy with hold | rfl
      · exact h.registry y hold
      · exact h.registry x hmem
  | edit free m =>
    refine ⟨fun x hx => ?_, h.registry⟩
    rw [List.getElem?_set_ne (free x hx).symm]
    exact h.document x hx

theorem Changes.sound {s s' : Session σ} (changes : Changes s s') (h : Sound s) : Sound s' := by
  induction changes with
  | refl => exact h
  | tail _ change ih => exact change.sound ih

theorem Sound.appendFilter {s : Session σ} (h : Sound s) (number : Nat)
    (filter : RequestFilter σ) : Sound (s.run (appendFilter number filter)).2 := by
  simp only [Session.appendFilter, handle, run_bind, run_get, run_entry]
  cases found : s.handles[number]? with
  | none => exact h
  | some x =>
    simp only [run_lift]
    cases hregistry : x.registry.append filter with
    | error fault => exact h
    | ok registry =>
      constructor
      · intro y hy
        rcases List.mem_or_eq_of_mem_set hy with hold | rfl
        · exact h.document y hold
        · exact h.document x (List.mem_of_getElem? found)
      · intro y hy
        rcases List.mem_or_eq_of_mem_set hy with hold | rfl
        · exact h.registry y hold
        · exact Registry.normal_append hregistry

theorem Reachable.sound {s : Session σ} (reachable : Reachable s) : Sound s := by
  induction reachable with
  | fresh variant script filterState => exact ⟨by simp, by simp⟩
  | step _ operation allowed ih => exact (operation.changes allowed).sound ih
  | filter _ number filter ih => exact ih.appendFilter number filter

theorem Change.handle_stays {s s' : Session σ} (change : Change s s') {number : Nat} {h : Handle σ}
    (found : s.handles[number]? = some h) :
    ∃ closed, s'.handles[number]? = some { h with closed } ∧ (h.closed = true → closed = true) := by
  cases change with
  | aside handles => exact ⟨h.closed, by rw [handles, found], id⟩
  | document m => exact ⟨h.closed, found, id⟩
  | handle => exact ⟨h.closed, getElem?_append_of_getElem? found _, id⟩
  | @close other x hx =>
    by_cases heq : other = number
    · subst heq
      obtain rfl : x = h := Option.some.inj (hx.symm.trans found)
      exact ⟨true, List.getElem?_set_self (List.getElem?_eq_some_iff.1 found).1, fun _ => rfl⟩
    · exact ⟨h.closed, (List.getElem?_set_ne heq).trans found, id⟩
  | edit => exact ⟨h.closed, found, id⟩

theorem Changes.handle_stays {s s' : Session σ} (changes : Changes s s') {number : Nat}
    {h : Handle σ} (found : s.handles[number]? = some h) :
    ∃ closed, s'.handles[number]? = some { h with closed } ∧ (h.closed = true → closed = true) := by
  induction changes with
  | refl => exact ⟨h.closed, found, id⟩
  | tail _ change ih =>
    obtain ⟨closed, hfound, hclosed⟩ := ih
    obtain ⟨closed', hfound', hclosed'⟩ := change.handle_stays hfound
    exact ⟨closed', hfound', fun h => hclosed' (hclosed h)⟩

theorem Changes.handle_was {s s' : Session σ} (changes : Changes s s')
    (hcount : s'.handles.length = s.handles.length) {number : Nat} {h' : Handle σ}
    (found : s'.handles[number]? = some h') :
    ∃ h closed, s.handles[number]? = some h ∧ h' = { h with closed } := by
  have hlt := (List.getElem?_eq_some_iff.1 found).1
  rw [hcount] at hlt
  obtain ⟨closed, hstays, -⟩ := changes.handle_stays (List.getElem?_eq_getElem hlt)
  exact ⟨_, closed, List.getElem?_eq_getElem hlt, Option.some.inj (found.symm.trans hstays)⟩

theorem Change.document_stays {s s' : Session σ} (change : Change s s') {h : Handle σ}
    (hmem : h ∈ s.handles) {m : Metadata} (hm : s.documents[h.document]? = some m) :
    s'.documents[h.document]? = some m := by
  cases change with
  | aside _ documents => rw [documents, hm]
  | document => exact getElem?_append_of_getElem? hm _
  | handle => exact getElem?_append_of_getElem? hm _
  | close => exact hm
  | edit free => exact (List.getElem?_set_ne (free h hmem).symm).trans hm

theorem Changes.document_stays {s s' : Session σ} (changes : Changes s s') {h : Handle σ}
    (hmem : h ∈ s.handles) {m : Metadata} (hm : s.documents[h.document]? = some m) :
    s'.documents[h.document]? = some m := by
  induction changes with
  | refl => exact hm
  | tail before change ih =>
    obtain ⟨number, found⟩ := List.getElem?_of_mem hmem
    obtain ⟨closed, found', -⟩ := Changes.handle_stays before found
    exact change.document_stays (List.mem_of_getElem? found') ih

theorem Changes.script_eq {s s' : Session σ} (changes : Changes s s') : s'.script = s.script := by
  induction changes with
  | refl => rfl
  | tail _ change ih =>
    rw [← ih]
    cases change with
    | aside _ _ _ script => exact script
    | _ => rfl

theorem Changes.variant_eq {s s' : Session σ} (changes : Changes s s') : s'.variant = s.variant := by
  induction changes with
  | refl => rfl
  | tail _ change ih =>
    rw [← ih]
    cases change with
    | aside _ _ variant => exact variant
    | _ => rfl

theorem Changes.journal_prefix {s s' : Session σ} (changes : Changes s s') :
    s.journal <+: s'.journal := by
  induction changes with
  | refl => exact List.prefix_refl _
  | tail _ change ih =>
    apply ih.trans
    cases change with
    | aside _ _ _ _ journal => exact journal
    | _ => exact List.prefix_refl _

end Session

end ClientRegistration
