import ClientRegistration.Proofs.Session.Attempts
import ClientRegistration.Proofs.Session.Passing
import ClientRegistration.Proofs.UpdatePayload
import Mathlib.Data.List.Infix
namespace ClientRegistration

/-- Fields which an update carries to the server and back: no text in them has a surrogate, and
none of them is for the client configuration endpoint. -/
structure Fields.Portable (fields : Fields Text Value) : Prop where
  clean : (Value.ofFields fields).holdsSurrogate = false
  unmarked : ∀ field ∈ credentialFields, field ∉ fields.keys

namespace Fields.Portable

variable {current new : Fields Text Value}

theorem merge (hcurrent : current.Portable) (hnew : new.Portable) (isPrivate : Text → Bool) :
    Fields.Portable (mergeFields isPrivate current new) := by
  constructor
  · have hclean := hcurrent.clean
    have hclean' := hnew.clean
    rw [Value.holdsSurrogate_ofFields, List.any_eq_false] at hclean hclean' ⊢
    intro field hmem
    rcases mem_mergeFields isPrivate hmem with hheld | hadded
    · exact hclean field hheld
    · exact hclean' field hadded
  · intro field hfield hmem
    obtain ⟨⟨key, v⟩, hmerged, rfl⟩ := List.mem_map.1 hmem
    rcases mem_mergeFields isPrivate hmerged with hheld | hadded
    · exact hcurrent.unmarked key hfield (List.mem_map_of_mem hheld)
    · exact hnew.unmarked key hfield (List.mem_map_of_mem hadded)

theorem withoutCredentials_eq {members : List (Text × Json)}
    (portable : (Value.fieldsOfMembers members).Portable) :
    Registration.withoutCredentials members = members := by
  apply List.filter_eq_self.2
  intro (key, item) hmem
  have hkey : key ∈ (Value.fieldsOfMembers members).keys := by
    rw [Value.fieldsOfMembers, Fields.keys_map]
    exact List.mem_map_of_mem hmem
  have huri : key ≠ uriField := by
    rintro rfl
    exact portable.unmarked _ (by simp [credentialFields]) hkey
  have htoken : key ≠ tokenField := by
    rintro rfl
    exact portable.unmarked _ (by simp [credentialFields]) hkey
  simp [huri, htoken]

theorem get?_eq_none (portable : current.Portable) {field : Text}
    (hfield : field ∈ credentialFields) : current.get? field = none := by
  cases hget : current.get? field with
  | none => rfl
  | some v =>
    have hmem : field ∈ current.keys := List.mem_map_of_mem (mem_of_get? hget)
    exact absurd hmem (portable.unmarked field hfield)

end Fields.Portable

theorem Handle.answer_of_echo {σ : Type} (h : Handle σ) {members : List (Text × Json)}
    (readable : (Json.object members).Readable)
    (portable : (Value.fieldsOfMembers members).Portable) :
    h.answer .update (.ofText 200 (.text ((Json.object members).write false))) =
      .ok (some ⟨.ofMembers members, h.uri, h.token⟩) := by
  have hentries := Response.entries?_ofText_eq_some_iff.2
    ⟨⟨Int.le_refl 200, by decide⟩, members, readable.read_write, rfl⟩
  apply Handle.answer_eq_some_iff.2
  refine ⟨nofun, _, Response.registration_eq_ok_iff.2
    ⟨_, hentries, Registration.ofEntries_object readable⟩, ?_⟩
  rw [portable.withoutCredentials_eq, portable.get?_eq_none (by simp [credentialFields]),
    portable.get?_eq_none (by simp [credentialFields])]
  rfl

namespace Session

variable {σ : Type}

theorem run_sendFrom_answered {s : Session σ} {response : Response}
    (hanswer : s.attemptAfter 0 = .ok response) (source : LogSource) (config : Config)
    (request : Request) (retries : Nat) :
    s.run (sendFrom source config request retries) = (.ok response, s.attempted request) := by
  cases retries with
  | zero =>
    rw [sendFrom, run_bind, run_transmit_attempted, hanswer]
    rfl
  | succ retries =>
    rw [sendFrom, run_bind, run_transmit_attempted, hanswer]
    rfl

/-- An operation has sent its request once, and has made a handle of the answer. -/
structure Renews (s : Session σ) (h : Handle σ) (request : Request) (made : Registration)
    (outcome : Except Fault (Option Nat) × Session σ) : Prop where
  result : outcome.1 = .ok (some s.handles.length)
  handles : outcome.2.handles =
    s.handles ++ [⟨s.documents.length, made.uri, made.token, h.config, h.registry, false⟩]
  documents : outcome.2.documents = s.documents ++ [made.metadata]
  sent : outcome.2.sent = s.sent ++ [h.authorized request]
  attempts : outcome.2.attempts = s.attempts + 1
  script : outcome.2.script = s.script
  variant : outcome.2.variant = s.variant
  refuses : outcome.2.refuses = s.refuses

theorem carryOutFrom_renews {s : Session σ} (htransport : s.variant ≠ .abstract)
    (hrefuses : s.refuses = false) {number : Nat} {h : Handle σ}
    (found : s.handles[number]? = some h) (normal : h.registry.Normal)
    (hempty : h.registry.isEmpty = true) (hshort : h.token.hasLongInteger = false)
    (source : LogSource) {call : Call} (request : Request) {response : Response}
    (hanswer : s.script.attempt s.attempts = .ok response)
    {made : Registration} (hmade : h.answer call response = .ok (some made)) :
    Renews s h request made (s.run (carryOutFrom source number call request)) := by
  have hfirst : s.attemptAfter 0 = .ok response := by
    rw [attemptAfter, hrefuses]
    exact hanswer
  rw [carryOutFrom, run_bind, run_applyFilters_of_isEmpty found hempty,
    Handle.authorize_eq_ok_iff.2 ⟨hshort, rfl⟩]
  simp only [run_handle_bind found, run_bind, run_sendFrom_answered hfirst,
    attempted_of_not_refuses hrefuses]
  generalize hsent : { s with
    attempts := s.attempts + 1, journal := s.journal ++ [Event.sent (h.authorized request)] } = sent
  have found' : sent.handles[number]? = some h := by rw [← hsent, found]
  have htransport' : sent.variant ≠ .abstract := by rwa [← hsent]
  obtain ⟨records, hinterpret⟩ := run_interpret found' normal htransport' call response
  rw [hinterpret, hmade, ← hsent]
  refine ⟨rfl, rfl, rfl, ?_, rfl, rfl, rfl, rfl⟩
  simp [Session.sent, withSuccessor, withHandle, logged, sentRequest?]

theorem operate_renews {s : Session σ} (sound : Sound s) (hvariant : s.variant.operates = true)
    (hrefuses : s.refuses = false) {number : Nat} {h : Handle σ}
    (found : s.handles[number]? = some h) (hempty : h.registry.isEmpty = true)
    (hshort : h.token.hasLongInteger = false) {call : Call} {new : Value} {request : Request}
    (prepared : (s.run (prepare number call new)).1 = .ok request) {response : Response}
    (hanswer : s.script.attempt s.attempts = .ok response)
    {made : Registration} (hmade : h.answer call response = .ok (some made)) :
    Renews s h request made (s.run (operate number call new)) := by
  obtain ⟨tasks, hrun⟩ := run_operate hvariant number call new
  have hstill := keeps_prepare quiet_log number call new s
  have htransport : s.variant ≠ .abstract := by
    intro habstract
    rw [habstract] at hvariant
    cases hvariant
  rw [hrun]
  generalize s.run (prepare number call new) = outcome at prepared hstill ⊢
  obtain ⟨result, before⟩ := outcome
  cases prepared
  have hsent := hstill.sent_eq
  obtain ⟨filterState, waits, journal, rfl⟩ : ∃ filterState waits journal,
      before = { s with filterState, waits, journal } := ⟨_, _, _, (hstill request).rest⟩
  have renews := carryOutFrom_renews (s := { s with filterState, waits, journal }) htransport
    hrefuses found (sound.registry h (List.mem_of_getElem? found)) hempty hshort
    s.variant.logSource request hanswer hmade
  refine ⟨?_, renews.handles, renews.documents, renews.sent.trans (congrArg (· ++ _) hsent),
    renews.attempts, renews.script, renews.variant, renews.refuses⟩
  exact mapError_eq_ok_iff.2 renews.result

theorem outgoing_ok_iff {s : Session σ} {number : Nat} {h : Handle σ}
    (found : s.handles[number]? = some h) (hempty : h.registry.isEmpty = true) {call : Call}
    {new : Value} :
    (∃ request, (s.run (outgoing number call new)).1 = .ok request) ↔
      h.token.hasLongInteger = false ∧
        ∃ request, (s.run (prepare number call new)).1 = .ok request := by
  have hstill := keeps_prepare quiet_log number call new s
  rw [outgoing, run_bind]
  generalize s.run (prepare number call new) = prepared at hstill ⊢
  obtain ⟨fault | request, after⟩ := prepared
  · simp
  · have found' : after.handles[number]? = some h := by rw [(hstill request).handles_eq, found]
    simp only [run_applyFilters_of_isEmpty found' hempty, h.authorize_eq_ok_iff]
    simp

/-- Everything sent from one session to another is answered by what it carries. -/
def Echoes (s s' : Session σ) : Prop :=
  ∀ count request, s'.sent[s.sent.length + count]? = some request →
    ∃ body, ({} : Conversion).decode request.body = .ok body ∧
      s.script.attempt (s.attempts + count) = .ok (.ofText 200 (.text body))

def updateInTurn (number : Nat) : List Value → Action σ (Option Nat)
  | [] => pure (some number)
  | new :: rest => do
    match ← operate number .update new with
    | some made => updateInTurn made rest
    | none => return none

/-- Each of these documents is accepted by the handle which the update before it gives. -/
def AcceptsInTurn (s : Session σ) (number : Nat) : List Value → Prop
  | [] => True
  | new :: rest =>
    (∃ request, (s.run (outgoing number .update new)).1 = .ok request) ∧
    ∀ made, (s.run (operate number .update new)).1 = .ok (some made) →
      AcceptsInTurn (s.run (operate number .update new)).2 made rest

/-- A handle that can be updated, without filters and with fields that can be carried. -/
structure Holds (s : Session σ) (number : Nat) (fields : Fields Text Value) : Prop where
  reachable : Reachable s
  operates : s.variant.operates = true
  accessible : s.refuses = false
  portable : fields.Portable
  handle : ∃ h m, s.handles[number]? = some h ∧ h.closed = false ∧ h.uri.isNull = false ∧
    h.registry.isEmpty = true ∧ s.documents[h.document]? = some m ∧ m.fields = fields

def mergeInTurn (fields : Fields Text Value) (documents : List Metadata) : Fields Text Value :=
  (documents.map (·.fields)).foldl (mergeFields privateFields.contains) fields

theorem encodes_of_prepare {s : Session σ} {number : Nat} {h : Handle σ}
    (found : s.handles[number]? = some h) {current : Metadata}
    (hcurrent : s.documents[h.document]? = some current) {new : Value} {given : Metadata}
    (hnew : Metadata.ofValue new = .ok given) {members : List (Text × Json)}
    (readable : (Json.object members).Readable)
    (hmerge : current.merge given = Value.fieldsOfMembers members) {request : Request}
    (hrequest : (s.run (prepare number .update new)).1 = .ok request) :
    ({} : Conversion).decode request.body = .ok ((Json.object members).write false) := by
  rw [prepare, run_prepareUpdate found hcurrent] at hrequest
  obtain ⟨_, -, hrequest⟩ := bind_eq_ok_iff.1 hrequest
  obtain ⟨given', hgiven', hrequest⟩ := bind_eq_ok_iff.1 hrequest
  obtain ⟨_, -, hrequest⟩ := bind_eq_ok_iff.1 hrequest
  cases hnew.symm.trans hgiven'
  rw [hmerge, h.updateRequest_fieldsOfMembers readable] at hrequest
  obtain ⟨body, hencode, hrequest⟩ := bind_eq_ok_iff.1 hrequest
  cases hrequest
  exact Conversion.decode_encode hencode

theorem update_holds {s : Session σ} {number : Nat} {fields : Fields Text Value}
    (holds : Holds s number fields) {new : Value} {given : Metadata}
    (hnew : Metadata.ofValue new = .ok given) (portable : given.fields.Portable)
    (accepted : ∃ request, (s.run (outgoing number .update new)).1 = .ok request)
    (echoes : Echoes s (s.run (operate number .update new)).2) :
    ∃ made after, s.run (operate number .update new) = (.ok (some made), after) ∧
      Holds after made (mergeFields privateFields.contains fields given.fields) ∧
      after.script = s.script ∧ after.attempts = s.attempts + 1 ∧
      after.sent.length = s.sent.length + 1 := by
  obtain ⟨h, current, found, -, huri, hempty, hcurrent, rfl⟩ := holds.handle
  obtain ⟨hshort, request, hrequest⟩ := (outgoing_ok_iff found hempty).1 accepted
  have sound := holds.reachable.sound
  obtain ⟨m, hm, hheld⟩ := sound.document h (List.mem_of_getElem? found)
  cases hcurrent.symm.trans hm
  obtain ⟨members, readable, hmerge⟩ := hheld.merge_eq (Metadata.genuine_of_ofValue hnew)
  have hmerged : (current.merge given).Portable := holds.portable.merge portable _
  rw [hmerge] at hmerged
  have hdecode := encodes_of_prepare found hcurrent hnew readable hmerge hrequest
  have hanswer : s.script.attempt s.attempts =
      .ok (.ofText 200 (.text ((Json.object members).write false))) := by
    rcases operate_fails_or_issues holds.operates found hempty .update new with
      ⟨fault, hfault, -⟩ | ⟨issued, hissued, hissues⟩
    · cases hrequest.symm.trans hfault
    · cases hrequest.symm.trans hissued
      obtain ⟨count, hsent, -, hpos⟩ := hissues.sent
      have hfirst : (s.run (operate number .update new)).2.sent[s.sent.length + 0]? =
          some (h.authorized request) := by
        rw [hsent, Nat.add_zero, List.getElem?_append_right (Nat.le_refl _), Nat.sub_self]
        exact List.getElem?_replicate_of_lt (hpos holds.accessible hshort)
      obtain ⟨body, hbody, hanswer⟩ := echoes 0 _ hfirst
      rw [Handle.authorized_eq] at hbody
      cases hdecode.symm.trans hbody
      exact hanswer
  have renews := operate_renews sound holds.operates holds.accessible found hempty hshort hrequest
    hanswer (h.answer_of_echo readable hmerged)
  have hstep : Reachable (s.run (discard (operate number .update new))).2 :=
    holds.reachable.step (.operate number .update new) trivial
  rw [run_discard] at hstep
  refine ⟨_, _, Prod.ext renews.result rfl, ⟨hstep, ?_, ?_, ?_, ?_⟩, renews.script,
    renews.attempts, ?_⟩
  · rw [renews.variant, holds.operates]
  · rw [renews.refuses, holds.accessible]
  · exact holds.portable.merge portable _
  · refine ⟨⟨s.documents.length, h.uri, h.token, h.config, h.registry, false⟩,
      .ofMembers members, ?_, rfl, huri, hempty, ?_, hmerge.symm⟩
    · rw [renews.handles]
      exact List.getElem?_concat_length
    · rw [renews.documents]
      exact List.getElem?_concat_length
  · rw [renews.sent, List.length_append, List.length_singleton]

theorem changes_updateInTurn (news : List Value) (number : Nat) :
    Keeps Changes (updateInTurn number news : Action σ (Option Nat)) := by
  induction news generalizing number with
  | nil => exact keeps_pure _
  | cons new rest ih =>
    apply (upheld_changes.operate number .update new).bind
    intro made
    cases made with
    | none => exact keeps_pure _
    | some made => exact ih made

theorem Echoes.before {s s' s'' : Session σ} (echoes : Echoes s s'') (changes : Changes s' s'') :
    Echoes s s' := by
  intro count request hrequest
  obtain ⟨later, hlater⟩ := changes.journal_prefix.filterMap sentRequest?
  apply echoes count request
  rw [sent, ← hlater]
  exact getElem?_append_of_getElem? hrequest later

theorem Echoes.since {s s' s'' : Session σ} (echoes : Echoes s s'') {more : Nat}
    (hscript : s'.script = s.script) (hattempts : s'.attempts = s.attempts + more)
    (hsent : s'.sent.length = s.sent.length + more) : Echoes s' s'' := by
  intro count request hrequest
  rw [hsent, Nat.add_assoc] at hrequest
  rw [hscript, hattempts, Nat.add_assoc]
  exact echoes (more + count) request hrequest

theorem run_updateInTurn_cons {s after : Session σ} {number made : Nat} {new : Value}
    (hrun : s.run (operate number .update new) = (.ok (some made), after)) (rest : List Value) :
    s.run (updateInTurn number (new :: rest)) = after.run (updateInTurn made rest) := by
  rw [updateInTurn, run_bind, hrun]

theorem updateInTurn_holds {news : List Value} {documents : List Metadata} {s : Session σ}
    {number : Nat} {fields : Fields Text Value} (holds : Holds s number fields)
    (given : List.Forall₂ (fun new m => Metadata.ofValue new = .ok m) news documents)
    (portable : ∀ m ∈ documents, m.fields.Portable) (accepts : AcceptsInTurn s number news)
    (echoes : Echoes s (s.run (updateInTurn number news)).2) :
    ∃ last after, s.run (updateInTurn number news) = (.ok (some last), after) ∧
      Holds after last (mergeInTurn fields documents) := by
  induction given generalizing s number fields with
  | nil => exact ⟨number, s, rfl, holds⟩
  | @cons new m rest documents hnew given ih =>
    obtain ⟨accepted, hrest⟩ := accepts
    have changes : Changes (s.run (operate number .update new)).2
        (s.run (updateInTurn number (new :: rest))).2 := by
      apply keeps_after_bind
      intro made
      cases made with
      | none => exact keeps_pure _
      | some made => exact changes_updateInTurn rest made
    obtain ⟨made, after, hrun, holds', hscript, hattempts, hsent⟩ :=
      update_holds holds hnew (portable m (List.mem_cons_self ..)) accepted (echoes.before changes)
    rw [run_updateInTurn_cons hrun] at echoes ⊢
    have haccepts := hrest made (by rw [hrun])
    rw [hrun] at haccepts
    exact ih holds' (fun m hmem => portable m (List.mem_cons_of_mem _ hmem)) haccepts
      (echoes.since hscript hattempts hsent)

theorem mergeInTurn_cons (fields : Fields Text Value) (first : Metadata)
    (rest : List Metadata) :
    mergeInTurn fields (first :: rest) =
      mergeFields privateFields.contains fields (mergeInTurn first.fields rest) := by
  have : Std.Associative (mergeFields (α := Value) privateFields.contains) :=
    ⟨fun a b c => mergeFields_assoc privateFields.contains a b c⟩
  exact List.foldl_assoc

/-- Where the server answers with what it is sent, the last of any updates in turn gives a handle
with the merge of all documents into those the first handle had, be it one document after another or
all others at once. -/
theorem updateInTurn_merges {s : Session σ} (reachable : Reachable s)
    (hvariant : s.variant.operates = true) (hrefuses : s.refuses = false) {number : Nat}
    {h : Handle σ} (found : s.handles[number]? = some h) (hopen : h.closed = false)
    (huri : h.uri.isNull = false) (hempty : h.registry.isEmpty = true) {m : Metadata}
    (hm : s.documents[h.document]? = some m) (hportable : m.fields.Portable) {news : List Value}
    {documents : List Metadata}
    (given : List.Forall₂ (fun new m => Metadata.ofValue new = .ok m) news documents)
    (portable : ∀ m ∈ documents, m.fields.Portable) (accepts : AcceptsInTurn s number news)
    (echoes : Echoes s (s.run (updateInTurn number news)).2) :
    ∃ last after h' m', s.run (updateInTurn number news) = (.ok (some last), after) ∧
      after.handles[last]? = some h' ∧ h'.closed = false ∧
      after.documents[h'.document]? = some m' ∧ m'.fields = mergeInTurn m.fields documents ∧
      ∀ first rest, documents = first :: rest →
        m'.fields = mergeFields privateFields.contains m.fields (mergeInTurn first.fields rest) := by
  have holds : Holds s number m.fields :=
    ⟨reachable, hvariant, hrefuses, hportable, h, m, found, hopen, huri, hempty, hm, rfl⟩
  obtain ⟨last, after, hrun, holds'⟩ := updateInTurn_holds holds given portable accepts echoes
  obtain ⟨h', m', found', hopen', -, -, hm', hfields⟩ := holds'.handle
  refine ⟨last, after, h', m', hrun, found', hopen', hm', hfields, ?_⟩
  rintro first rest rfl
  rw [hfields, mergeInTurn_cons]

theorem updateInTurn_merges_of_two :
    let held : List (Text × Json) := [("client_id", .text "c"), ("scope", .text "a")]
    let given : List (Text × Json) := [("scope", .text "b"), ("client_name", .null)]
    let merged : List (Text × Json) :=
      [("client_id", .text "c"), ("scope", .text "b"), ("client_name", .null)]
    let new := (Metadata.ofMembers given).toMapping
    let answer := Response.ofText 200 (.text ((Json.object merged).write false))
    let s := ofOneHandle .blocking (.repeating answer) (Metadata.ofMembers held).toMapping
      (.text "u") .null
    AcceptsInTurn s 0 [new, new] ∧ Echoes s (s.run (updateInTurn 0 [new, new])).2 ∧
      ∃ last after h m, s.run (updateInTurn 0 [new, new]) = (.ok (some last), after) ∧
        after.handles[last]? = some h ∧ after.documents[h.document]? = some m ∧
        m.fields = Value.fieldsOfMembers merged := by
  intro held given merged new answer s
  have hheld : (Json.object held).Readable :=
    ⟨show (Fields.keys held).Nodup by decide, trivial, trivial, trivial⟩
  have hgiven : (Json.object given).Readable :=
    ⟨show (Fields.keys given).Nodup by decide, trivial, trivial, trivial⟩
  have hmerged : (Json.object merged).Readable :=
    ⟨show (Fields.keys merged).Nodup by decide, trivial, trivial, trivial, trivial⟩
  have hnew : Metadata.ofValue new = .ok _ := Metadata.ofValue_toMapping hgiven
  have hecho (h : Handle Unit) :
      h.answer .update answer = .ok (some ⟨.ofMembers merged, h.uri, h.token⟩) :=
    h.answer_of_echo hmerged ⟨by decide, by decide⟩
  have hdef : answer = .ofText 200 (.text ((Json.object merged).write false)) := rfl
  clear_value answer
  have hportable : (Value.fieldsOfMembers held).Portable := ⟨by decide, by decide⟩
  have portable : ∀ m ∈ [Metadata.ofMembers given, .ofMembers given], m.fields.Portable := by
    intro m hmem
    obtain rfl : m = .ofMembers given := by simpa using hmem
    exact ⟨by decide, by decide⟩
  let held₁ : Handle Unit := ⟨0, .text "u", .null, ⟨0, .int 0⟩, .listed [], false⟩
  let held₂ : Handle Unit := ⟨1, .text "u", .null, ⟨0, .int 0⟩, .listed [], false⟩
  let start : Session Unit :=
    { variant := .blocking, script := .repeating answer, filterState := ()
      documents := [.ofMembers held], handles := [held₁] }
  have reachable : Reachable s := reachable_ofOneHandle ..
  have hs : s = start := ofOneHandle_ofMembers _ _ hheld _ _
  rw [hs] at reachable ⊢
  have found : start.handles[0]? = some held₁ := rfl
  have hcurrent : start.documents[held₁.document]? = some (.ofMembers held) := rfl
  obtain ⟨first, hfirst⟩ : ∃ request, (start.run (prepare 0 .update new)).1 = .ok request :=
    exists_run_prepareUpdate found rfl hcurrent (Metadata.genuine_ofMembers hheld) hnew rfl rfl
  have hbody := encodes_of_prepare found hcurrent hnew hmerged rfl hfirst
  have renews := operate_renews reachable.sound rfl rfl found rfl rfl hfirst rfl (hecho held₁)
  have reachable' := reachable.step (.operate 0 .update new) trivial
  simp only [Operation.action, run_discard] at reachable'
  generalize hrun : start.run (operate 0 .update new) = outcome at renews reachable'
  obtain ⟨result, after⟩ := outcome
  cases renews.result
  have found' : after.handles[1]? = some held₂ := by
    rw [renews.handles]
    rfl
  have hcurrent' : after.documents[held₂.document]? = some (.ofMembers merged) := by
    rw [renews.documents]
    rfl
  obtain ⟨second, hsecond⟩ : ∃ request, (after.run (prepare 1 .update new)).1 = .ok request :=
    exists_run_prepareUpdate found' rfl hcurrent' (Metadata.genuine_ofMembers hmerged) hnew rfl rfl
  have hbody' := encodes_of_prepare found' hcurrent' hnew hmerged rfl hsecond
  have hanswer : after.script.attempt after.attempts = .ok answer := by rw [renews.script]; rfl
  have renews' := operate_renews reachable'.sound (by rw [renews.variant]; rfl)
    (by rw [renews.refuses]; rfl) found' rfl rfl hsecond hanswer (hecho held₂)
  have hrun' : after.run (operate 1 .update new) =
      (.ok (some 2), (after.run (operate 1 .update new)).2) := by
    refine Prod.ext (renews'.result.trans ?_) rfl
    rw [renews.handles]
    rfl
  have hruns : start.run (updateInTurn 0 [new, new]) =
      (.ok (some 2), (after.run (operate 1 .update new)).2) := by
    rw [run_updateInTurn_cons hrun]
    exact run_updateInTurn_cons hrun' []
  have accepts : AcceptsInTurn start 0 [new, new] := by
    refine ⟨(outgoing_ok_iff found rfl).2 ⟨rfl, first, hfirst⟩, fun made hmade => ?_⟩
    rw [hrun] at hmade ⊢
    cases hmade
    exact ⟨(outgoing_ok_iff found' rfl).2 ⟨rfl, second, hsecond⟩, fun _ _ => trivial⟩
  have echoes : Echoes start (start.run (updateInTurn 0 [new, new])).2 := by
    rw [hruns]
    intro count request hrequest
    rw [renews'.sent, renews.sent] at hrequest
    refine ⟨_, ?_, congrArg Except.ok hdef⟩
    have hmem := List.mem_of_getElem? hrequest
    rw [show start.sent = [] from rfl, List.nil_append] at hmem
    rcases List.mem_append.1 hmem with h | h
    · rw [List.mem_singleton.1 h]
      exact hbody
    · rw [List.mem_singleton.1 h]
      exact hbody'
  refine ⟨accepts, echoes, ?_⟩
  obtain ⟨last, after, h, m, hrun, found, -, hm, hfields, -⟩ := updateInTurn_merges reachable rfl
    rfl found rfl rfl rfl hcurrent hportable (.cons hnew (.cons hnew .nil)) portable accepts echoes
  exact ⟨last, after, h, m, hrun, found, hm, hfields⟩

end Session

end ClientRegistration
