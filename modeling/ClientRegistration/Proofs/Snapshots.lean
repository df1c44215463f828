import ClientRegistration.Proofs.Session.Custody
import ClientRegistration.Proofs.Session.Requests
import ClientRegistration.Proofs.Session.Sending

namespace ClientRegistration

variable {σ : Type}

theorem Session.run_metadata {s : Session σ} {number : Nat} {h : Handle σ}
    (found : s.handles[number]? = some h) (hopen : h.closed = false) {m : Metadata}
    (hm : s.documents[h.document]? = some m) (genuine : m.Genuine) :
    s.run (metadata number) =
      (.ok s.documents.length, { s with documents := s.documents ++ [m] }) := by
  have hallowed : h.checkOpen = .ok () := by
    rw [Handle.checkOpen, hopen]
    rfl
  rw [metadata, run_handle_bind found, run_bind_of_ok (by rw [run_lift, hallowed]),
    run_document_bind hm, run_bind_of_ok (by rw [run_lift, genuine.copy_eq])]
  rfl

namespace Handle

/-- Handles make the same update of the same fields, but for where it goes. -/
theorem updateRequest_eq_map (h h' : Handle σ) (merged : Fields Text Value) :
    h'.updateRequest merged =
      (h.updateRequest merged).map fun request => { request with uri := h'.uri } := by
  rw [updateRequest, updateRequest]
  cases (Value.ofFields merged).toJsonText false with
  | error fault => rfl
  | ok t =>
    simp only [ok_bind]
    cases ({} : Conversion).encode t <;> rfl

variable {closes : Prop} {lent : Part → Prop} {h h' : Handle σ}

theorem Becomes.isNull_eq (becomes : h.Becomes closes lent h') : h'.uri.isNull = h.uri.isNull := by
  rcases becomes.part .uri with hsame | ⟨-, hbecomes⟩
  · exact congrArg Value.isNull hsame
  · exact hbecomes.isNull_eq

theorem Becomes.was_open (becomes : h.Becomes closes lent h') (hopen : h'.closed = false) :
    h.closed = false := by
  by_contra hne
  have hclosed := (becomes.closed fun heq => hne (heq ▸ hopen)).1
  cases hclosed.symm.trans hopen

end Handle

theorem Session.run_prepareUpdate_of_becomes {s s' : Session σ} {number : Nat} {h h' : Handle σ}
    {m : Metadata} (found : s.handles[number]? = some h) (hm : s.documents[h.document]? = some m)
    (found' : s'.handles[number]? = some h') (hm' : s'.documents[h'.document]? = some m)
    {closes : Prop} {lent : Part → Prop} (becomes : h.Becomes closes lent h')
    (hopen : h'.closed = false) (new : Value) :
    (s'.run (prepareUpdate number new)).1 =
      (s.run (prepareUpdate number new)).1.map fun request => { request with uri := h'.uri } := by
  have hallowed : h'.checkRequestAllowed = h.checkRequestAllowed := by
    rw [Handle.checkRequestAllowed, Handle.checkRequestAllowed, Handle.checkOpen,
      Handle.checkOpen, becomes.isNull_eq, hopen, becomes.was_open hopen]
  rw [run_prepareUpdate found hm, run_prepareUpdate found' hm', hallowed]
  cases h.checkRequestAllowed with
  | error fault => rfl
  | ok _ =>
    cases Metadata.ofValue new with
    | error fault => rfl
    | ok given =>
      simp only [ok_bind]
      cases m.checkImmutable given with
      | error fault => rfl
      | ok _ => exact h.updateRequest_eq_map h' (m.merge given)

namespace Custody

open Session

/-- Moves lead from one custody to another one, and close the handles of a list. -/
inductive Runs (c : Custody σ) : List Nat → Custody σ → Prop where
  | refl : Runs c [] c
  | step {closing : List Nat} {c' : Custody σ} (runs : Runs c closing c') (move : Move σ) :
      Runs c (closing ++ move.closes) (c'.after move)

theorem Runs.leads {c c' : Custody σ} {closing : List Nat} (runs : Runs c closing c')
    (kept : Kept c) : Leads closing c c' := by
  induction runs with
  | refl => exact kept.stays []
  | step _ move ih => exact ih.trans (ih.kept.after move)

def fresh (variant : Variant) (script : Script) (filterState : σ) : Custody σ where
  session := { variant, script, filterState }

theorem kept_fresh (variant : Variant) (script : Script) (filterState : σ) :
    Kept (fresh variant script filterState) where
  sound := (Reachable.fresh variant script filterState).sound
  bounded := by simp [fresh]
  apart := by simp [fresh]
  lent := by simp [fresh]

/-- A handle keeps its metadata, in text and fields, its settings and its filters, whatever happens
to documents and dictionaries that were given to the session or taken from it; only being closed
changes it. Its URI and token stay, too, but for what callers have given and can still change in
place. As long as it is open it gives copies of the same metadata, and prepares the same update for
the same document. -/
theorem Runs.handle_is_snapshot {variant : Variant} {script : Script} {filterState : σ}
    {before : List Nat} {c c' : Custody σ}
    (reached : Runs (fresh variant script filterState) before c) {closing : List Nat}
    (runs : Runs c closing c') {number : Nat} {h : Handle σ}
    (found : c.session.handles[number]? = some h) :
    ∃ m h', c.session.documents[h.document]? = some m ∧
      c'.session.handles[number]? = some h' ∧
      h'.document = h.document ∧ c'.session.documents[h.document]? = some m ∧
      h'.config = h.config ∧ h'.registry = h.registry ∧
      (∀ part, h'.part part ≠ h.part part →
        (number, part) ∈ c.lent ∧ (h.part part).MayBecome (h'.part part)) ∧
      (h'.closed ≠ h.closed → h'.closed = true ∧ number ∈ closing) ∧
      (h'.closed = false →
        c'.session.run (metadata number) = (.ok c'.session.documents.length,
          { c'.session with documents := c'.session.documents ++ [m] }) ∧
        ∀ new, (c'.session.run (prepareUpdate number new)).1 =
          (c.session.run (prepareUpdate number new)).1.map
            fun request => { request with uri := h'.uri }) := by
  have kept : Kept c := (reached.leads (kept_fresh variant script filterState)).kept
  have leads := runs.leads kept
  have hmem := List.mem_of_getElem? found
  obtain ⟨m, hm, genuine⟩ := kept.sound.document h hmem
  have hm' := leads.document h hmem m hm
  obtain ⟨h', found', becomes⟩ := leads.handle found
  refine ⟨m, h', hm, found', becomes.document, hm', becomes.config, becomes.registry,
    fun part hne => (becomes.part part).resolve_left hne, becomes.closed, fun hopen => ?_⟩
  rw [← becomes.document] at hm'
  exact ⟨run_metadata found' hopen hm' genuine,
    run_prepareUpdate_of_becomes found hm found' hm' becomes hopen⟩

/-- A handle is made of a dictionary which is emptied after that, and gives a copy which is emptied,
too. Its next copy has all fields again, and its updates are the same as ever. -/
theorem handle_is_snapshot_of_emptied :
    let members : List (Text × Json) := [("client_id", .text "a"), ("redirect_uris", .array [])]
    let m := Metadata.ofMembers members
    let entries := Value.entriesOfFields m.fields
    let script := Script.repeating (.ofText 200 (.text []))
    let c := ((fresh .blocking script ()).after (.newDictionary entries)).after
      (.create (.dictionary 0) (.text "u") .null ⟨0, .int 0⟩ .absent)
    let c' := ((c.after (.editDictionary 0 [])).after (.metadata 0)).after (.editDocument 1 [])
    c'.dictionaries = [[]] ∧ c'.session.documents = [m, { m with fields := [] }] ∧
      (c'.session.run (metadata 0)).2.documents = [m, { m with fields := [] }, m] ∧
      ∀ new, (c'.session.run (prepareUpdate 0 new)).1 =
        (c.session.run (prepareUpdate 0 new)).1 := by
  intro members m entries script c c'
  have readable : (Json.object members).Readable :=
    ⟨show (Fields.keys members).Nodup by decide, trivial, ⟨trivial, trivial⟩, trivial⟩
  have hm : Metadata.ofValue (.mapping entries) = .ok m := Metadata.ofValue_toMapping readable
  have genuine : m.Genuine := Metadata.genuine_ofMembers readable
  have reached : Runs _ _ c := .step (.step .refl (.newDictionary entries))
    (.create (.dictionary 0) (.text "u") .null ⟨0, .int 0⟩ .absent)
  have runs : Runs c _ c' := .step (.step (.step .refl (.editDictionary 0 [])) (.metadata 0))
    (.editDocument 1 [])
  -- The text of `m` must not be computed by what compares sessions below.
  clear_value entries m
  let h : Handle Unit := ⟨0, .text "u", .null, ⟨0, .int 0⟩, .listed [], false⟩
  let s : Session Unit :=
    { variant := .blocking, script, filterState := (), documents := [m], handles := [h] }
  have hc : c = ⟨s, [], [entries], [(0, .uri), (0, .token)]⟩ := by
    change Custody.lending _ (Custody.perform _ (Session.create (.mapping entries) _ _ _ _)) _ = _
    rw [Custody.perform, run_create, hm]
    rfl
  have hcopy : s.run (metadata 0) = (.ok 1, { s with documents := [m, m] }) :=
    run_metadata (show s.handles[0]? = some h from rfl) rfl rfl genuine
  have hc' : c' = ⟨{ s with documents := [m, { m with fields := [] }] }, [1], [[]],
      [(0, .uri), (0, .token)]⟩ := by
    have hsession : (c.after (.editDictionary 0 [])).session = s := by rw [hc]; rfl
    change Custody.after (Custody.take _ (metadata 0)) _ = _
    rw [Custody.take, hsession, hcopy, hc]
    rfl
  clear_value c c'
  subst hc hc'
  obtain ⟨held, h', hheld, hfound, -, -, -, -, hparts, hclosed, hstays⟩ :=
    reached.handle_is_snapshot runs (show s.handles[0]? = some h from rfl)
  cases hheld
  have huri : h'.uri = .text "u" := by
    by_contra hne
    exact absurd (hparts .uri hne).2.1 (by decide)
  have hopen : h'.closed = false := by
    by_contra hne
    exact absurd (hclosed hne).2 (by decide)
  obtain ⟨hmetadata, hupdate⟩ := hstays hopen
  refine ⟨rfl, rfl, ?_, fun new => ?_⟩
  · rw [hmetadata]
    rfl
  · have hsame : h.Becomes False (fun _ => False) h := .refl h
    rw [hupdate new, huri]
    exact (run_prepareUpdate_of_becomes (show s.handles[0]? = some h from rfl) rfl rfl rfl hsame
      rfl new).symm

/-- A handle has the very list which a response gives as its token. The caller which still has the
response changes it, and with it what the handle sends. Another call than a close marks the handle
as closed. -/
theorem handle_changes_with_response :
    let script := Script.repeating (.ofText 200 (.text []))
    let response := Value.entriesOfFields (Value.fieldsOfMembers
      [("client_id", .text "c"), (uriField, .text "u"), (tokenField, .array [.text "t"])])
    let extended : Value := .list [.text "t", .text "x"]
    let c := ((fresh .blocking script ()).after (.newDictionary response)).after
      (.createOfResponse (.dictionary 0) ⟨0, .int 0⟩ .absent)
    let c' := (c.after (.editPart 0 .token extended)).after
      (.editDictionary 0 (response.put (.text tokenField) extended))
    let marked := c.after (.markClosed 0)
    let parts (c : Custody Unit) : List (Value × Value × Bool) :=
      c.session.handles.map fun h => (h.uri, h.token, h.closed)
    let credentials (c : Custody Unit) : List (Option Value) :=
      (c.session.run (operate 0 .read .null)).2.sent.map fun request =>
        request.headers.get? (.text "Authorization")
    parts c = [(.text "u", .list [.text "t"], false)] ∧
      credentials c = [some (.text "Bearer ['t']")] ∧
      parts c' = [(.text "u", extended, false)] ∧
      credentials c' = [some (.text "Bearer ['t', 'x']")] ∧
      parts marked = [(.text "u", .list [.text "t"], true)] := by
  intro script response extended c c' marked parts credentials
  let members : List (Text × Json) :=
    [("client_id", .text "c"), (uriField, .text "u"), (tokenField, .array [.text "t"])]
  let m := Metadata.ofMembers [("client_id", .text "c")]
  let token : Value := .list [.text "t"]
  have readable : (Json.object members).Readable :=
    ⟨show (Fields.keys members).Nodup by decide, trivial, trivial, ⟨trivial, trivial, trivial⟩,
      trivial⟩
  have hresponse : Registration.ofValue (.mapping response) = .ok ⟨m, .text "u", token⟩ :=
    Registration.ofEntries_object readable
  -- The text of `m` must not be computed by what compares sessions below.
  clear_value response m
  let h (token : Value) : Handle Unit := ⟨0, .text "u", token, ⟨0, .int 0⟩, .listed [], false⟩
  let s (token : Value) : Session Unit :=
    { variant := .blocking, script, filterState := (), documents := [m], handles := [h token] }
  have hc : c = ⟨s token, [], [response], [(0, .uri), (0, .token)]⟩ := by
    have hcreate : (fresh .blocking script ()).session.run (Session.createOfResponse
        (.mapping response) ⟨0, .int 0⟩ .absent) = (.ok 0, s token) := by
      rw [run_createOfResponse, hresponse]
      rfl
    change Custody.lending _
      ⟨((fresh .blocking script ()).session.run (Session.createOfResponse
        (.mapping response) ⟨0, .int 0⟩ .absent)).2, [], [response], []⟩ _ = _
    rw [hcreate]
    rfl
  have hc' : c' = ⟨s extended, [], [response.put (.text tokenField) extended],
      [(0, .uri), (0, .token)]⟩ := by
    change Custody.after (Custody.after c _) _ = _
    rw [hc]
    rfl
  have hmarked : marked.session.handles = [{ h token with closed := true }] := by
    change (Custody.after c _).session.handles = _
    rw [hc]
    rfl
  let request : Request :=
    ⟨.text "GET", .text "u", [(.text "Accept", .text Handle.contentType)], []⟩
  have plain : request.Plain (.text "u") := ⟨rfl, [("Accept", .text Handle.contentType)], rfl, rfl⟩
  have hsent : (c.session.run (operate 0 .read .null)).2.sent = [(h token).authorized request] := by
    rw [hc]
    rfl
  have hsent' : (c'.session.run (operate 0 .read .null)).2.sent =
      [(h extended).authorized request] := by
    rw [hc']
    rfl
  refine ⟨by rw [hc]; rfl, ?_, by rw [hc']; rfl, ?_, by simp only [parts, hmarked]; rfl⟩
  · change List.map _ (c.session.run (operate 0 .read .null)).2.sent = _
    rw [hsent, List.map_singleton, Handle.authorization_authorized plain rfl]
    rfl
  · change List.map _ (c'.session.run (operate 0 .read .null)).2.sent = _
    rw [hsent', List.map_singleton, Handle.authorization_authorized plain rfl]
    rfl

end Custody

end ClientRegistration
