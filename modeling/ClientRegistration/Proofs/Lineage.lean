import ClientRegistration.Proofs.Interpretation
import ClientRegistration.Proofs.Session.Operate
import ClientRegistration.Proofs.Session.Requests
import Mathlib.Logic.Function.Basic
namespace ClientRegistration

namespace Session

variable {σ : Type}

/-- The answers which led to a handle, the latest one first. -/
abbrev Path := List (Fields Value Value)

/-- The value of a field which was given last on a path; null is none. -/
def Path.latest (field : Text) (initial : Value) : Path → Value
  | [] => initial
  | entries :: older =>
    (given? (entries.get? (.text field))).getD (Path.latest field initial older)

/-- A family in a session, with the path to each of its handles. It grows by reads and updates which
succeed; anything else may be done beside them that makes no handles. -/
inductive Family (h₀ : Handle σ) : Session σ → (Nat → Path) → Prop where
  | start {s : Session σ} (reachable : Reachable s) (single : s.handles = [h₀]) :
      Family h₀ s fun _ => []
  | birth {s : Session σ} {path : Nat → Path} (family : Family h₀ s path) {number made : Nat}
      {call : Call} {new : Value} {response : Response} {entries : Fields Value Value}
      (hmade : (s.run (operate number call new)).1 = .ok (some made))
      (hanswer : (s.run (operate number call new)).2.script.attempt
        ((s.run (operate number call new)).2.attempts - 1) = .ok response)
      (hentries : response.entries? = some entries) :
      Family h₀ (s.run (operate number call new)).2
        (Function.update path made (entries :: path number))
  | other {s : Session σ} {path : Nat → Path} (family : Family h₀ s path)
      (operation : Operation σ) (allowed : operation.Allowed s)
      (hcount : (s.run operation.action).2.handles.length = s.handles.length) :
      Family h₀ (s.run operation.action).2 path

theorem Family.reachable {h₀ : Handle σ} {s : Session σ} {path : Nat → Path}
    (family : Family h₀ s path) : Reachable s := by
  induction family with
  | start reachable => exact reachable
  | @birth s _ _ number _ call new _ _ _ _ _ ih =>
    have hrun := run_discard s (operate number call new)
    exact congrArg Prod.snd hrun ▸ ih.step (.operate number call new) trivial
  | other _ operation allowed _ ih => exact ih.step operation allowed

end Session

/-- A handle with the URI and the token which a path tells, and the filters of the first one. -/
structure Handle.Descends {σ : Type} (h h₀ : Handle σ) (path : Session.Path) : Prop where
  uri : h.uri = path.latest uriField h₀.uri
  token : h.token = path.latest tokenField h₀.token
  registry : h.registry = h₀.registry

namespace Session

variable {σ : Type} {h₀ : Handle σ}

theorem descends_of_succeeds {h h' : Handle σ} {path : Path} (descends : h.Descends h₀ path)
    {entries : Fields Value Value}
    (hsucceeds : h'.Succeeds h (entries.get? (.text uriField)) (entries.get? (.text tokenField))) :
    h'.Descends h₀ (entries :: path) := by
  refine ⟨?_, ?_, hsucceeds.registry.trans descends.registry⟩
  · rw [Path.latest, ← descends.uri]
    exact hsucceeds.uri
  · rw [Path.latest, ← descends.token]
    exact hsucceeds.token

theorem Family.descends {s : Session σ} {path : Nat → Path} (family : Family h₀ s path)
    (hempty : h₀.registry.isEmpty = true) {number : Nat} {h : Handle σ}
    (found : s.handles[number]? = some h) : h.Descends h₀ (path number) := by
  induction family generalizing number h with
  | start _ single =>
    rw [single] at found
    obtain ⟨rfl, rfl⟩ : number = 0 ∧ h = h₀ := by
      cases number with
      | zero => exact ⟨rfl, (Option.some.inj found).symm⟩
      | succ number => cases found
    exact ⟨rfl, rfl, rfl⟩
  | @birth s path family parent made call new response entries hmade hanswer hentries ih =>
    obtain ⟨x, response', entries', h', hx, hanswer', hentries', rfl, hhandles, hsucceeds⟩ :=
      succeeds_of_run_operate family.reachable.sound hmade
    cases hanswer.symm.trans hanswer'
    cases hentries.symm.trans hentries'
    rw [hhandles] at found
    by_cases hnew : number = s.handles.length
    · subst hnew
      rw [List.getElem?_concat_length] at found
      cases found
      rw [Function.update_self]
      exact descends_of_succeeds (ih hx) hsucceeds
    · rw [Function.update_of_ne hnew]
      have hlt := (List.getElem?_eq_some_iff.1 found).1
      rw [List.length_append, List.length_singleton] at hlt
      rw [List.getElem?_append_left (by omega)] at found
      exact ih found
  | other family operation allowed hcount ih =>
    obtain ⟨x, closed, hx, rfl⟩ := (operation.changes allowed).handle_was hcount found
    exact ⟨(ih hx).uri, (ih hx).token, (ih hx).registry⟩

/-- A read or update that succeeds makes the family grow, and leaves the paths to older handles. -/
theorem Family.exists_birth {s : Session σ} {path : Nat → Path} (family : Family h₀ s path)
    {number made : Nat} {call : Call} {new : Value}
    (hmade : (s.run (operate number call new)).1 = .ok (some made)) :
    ∃ path', Family h₀ (s.run (operate number call new)).2 path' ∧
      ∀ other < s.handles.length, path' other = path other := by
  obtain ⟨x, response, entries, h', -, hanswer, hentries, rfl, -⟩ :=
    succeeds_of_run_operate family.reachable.sound hmade
  exact ⟨_, family.birth hmade hanswer hentries, fun other hlt =>
    Function.update_of_ne hlt.ne _ _⟩

/-- Every request that is issued on a handle of a family goes to the URI given last on the path to
it, with the token given last on this path. -/
theorem Family.requests_follow_path {s : Session σ} {path : Nat → Path} (family : Family h₀ s path)
    (hempty : h₀.registry.isEmpty = true) {number : Nat} {h : Handle σ}
    (found : s.handles[number]? = some h) (call : Call) (new : Value) :
    let uri := (path number).latest uriField h₀.uri
    let token := (path number).latest tokenField h₀.token
    ∃ issued, (s.run (operate number call new)).2.sent = s.sent ++ issued ∧
      (s.variant.operates = true → s.refuses = false → token.hasLongInteger = false →
        (∃ request, (s.run (prepare number call new)).1 = .ok request) → issued ≠ []) ∧
      ∀ request ∈ issued, request.uri = uri ∧
        request.headers.get? (.text "Authorization") =
          if token.isNull then none else some (.text ("Bearer " ++ token.toText)) := by
  intro uri token
  have descends := family.descends hempty found
  cases hvariant : s.variant.operates with
  | false =>
    obtain ⟨fault, hrun⟩ := run_operate_of_not_operates hvariant number call new
    rw [hrun]
    exact ⟨[], (List.append_nil _).symm, fun h => (by cases h), fun _ hmem => by cases hmem⟩
  | true =>
    have hxempty : h.registry.isEmpty = true := by rw [descends.registry, hempty]
    have sound := family.reachable.sound
    rcases operate_fails_or_issues hvariant found hxempty call new with
      ⟨fault, hfault, -, hsent⟩ | ⟨request, hrequest, hissues⟩
    · refine ⟨[], hsent.trans (List.append_nil _).symm, fun _ _ _ ⟨request, hrequest⟩ => ?_,
        fun _ hmem => by cases hmem⟩
      cases hfault.symm.trans hrequest
    · obtain ⟨count, hsent, hshort, hpos⟩ := hissues.sent
      refine ⟨_, hsent, fun _ hrefuses hwritten _ hnil => ?_, fun issued hmem => ?_⟩
      · have hcount := hpos hrefuses (descends.token ▸ hwritten)
        rw [List.replicate_eq_nil_iff] at hnil
        omega
      · have plain := plain_of_run_prepare sound found hrequest
        obtain ⟨hcount, rfl⟩ := List.mem_replicate.1 hmem
        rw [Handle.authorization_authorized plain (hshort (Nat.pos_of_ne_zero hcount)),
          descends.token, Handle.authorized_eq]
        exact ⟨plain.uri.trans descends.uri, rfl⟩

theorem Family.requests_follow_path_of_rotation :
    let h₀ : Handle Unit := ⟨0, .text "u", .null, ⟨0, .int 0⟩, .listed [], false⟩
    h₀.registry.isEmpty = true ∧ ∃ s path h, Family h₀ s path ∧ s.handles[1]? = some h ∧
      ∃ issued, (s.run (operate 1 .delete .null)).2.sent = s.sent ++ issued ∧
        ∀ request ∈ issued, request.uri = .text "u" ∧
          request.headers.get? (.text "Authorization") = some (.text "Bearer t") := by
  intro h₀
  let answered : List (Text × Json) := [(tokenField, .text "t")]
  let answer := Response.ofText 200 (.text ((Json.object answered).write false))
  have hnone : (Json.object []).Readable := ⟨List.nodup_nil, trivial⟩
  have hanswered : (Json.object answered).Readable :=
    ⟨List.nodup_cons.2 (by simp), trivial, trivial⟩
  have hentries : answer.entries? = some _ := Response.entries?_ofText_eq_some_iff.2
    ⟨⟨Int.le_refl _, by decide⟩, answered, hanswered.read_write, rfl⟩
  have reachable := reachable_ofOneHandle .blocking (.repeating answer)
    (Metadata.ofMembers []).toMapping (.text "u") .null
  rw [ofOneHandle_ofMembers _ _ hnone] at reachable
  let start (answer : Response) : Session Unit :=
    { variant := .blocking, script := .repeating answer, filterState := ()
      documents := [.ofMembers []], handles := [h₀] }
  let sent (answer : Response) : Session Unit :=
    { start answer with
      attempts := 1
      journal := [.sent ⟨.text "GET", .text "u",
        [(.text "Accept", .text Handle.contentType)], []⟩] }
  have hread (answer : Response) : (start answer).run (operate 0 .read .null) =
      (sent answer).run (some <$> parse 0 answer) := rfl
  have found : (sent answer).handles[0]? = some h₀ := rfl
  obtain ⟨record, hparse⟩ := run_parse_object found rfl (by decide) ⟨Int.le_refl _, by decide⟩
    hanswered.read_write
  have hrun := hread answer
  rw [run_map, hparse] at hrun
  have family : Family h₀ ((start answer).run (operate 0 .read .null)).2 _ :=
    @Family.birth _ _ _ _ (.start reachable rfl) 0 1 _ _ _ _
      (by rw [hrun]; rfl) (by rw [hrun]; rfl) hentries
  have hmore : ((start answer).run (operate 0 .read .null)).2.handles[1]? =
      some ⟨1, .text "u", .text "t", ⟨0, .int 0⟩, .listed [], false⟩ := by
    rw [hrun]
    rfl
  refine ⟨rfl, _, _, _, family, hmore, ?_⟩
  obtain ⟨issued, hsent, -, hissued⟩ := family.requests_follow_path rfl hmore .delete .null
  refine ⟨issued, hsent, fun request hmem => ?_⟩
  obtain ⟨huri, hauthorization⟩ := hissued request hmem
  simp only [Function.update_self, Path.latest, Value.get?_entriesOfFields] at huri hauthorization
  exact ⟨huri, hauthorization⟩

end Session

end ClientRegistration
