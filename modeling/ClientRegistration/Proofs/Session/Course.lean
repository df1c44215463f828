import ClientRegistration.Proofs.Session.Alike
namespace ClientRegistration

/-- What a handle was made with, its metadata included. -/
structure Held (σ : Type) where
  metadata : Metadata
  uri : Value
  token : Value
  config : Config
  registry : Registry σ

/-- How an attempt of an operation ends: it is refused by a transport that has been closed, it is
made, or the wait before it fails so that it is not made. -/
inductive Ending where
  | refused
  | ended (answer : Except Fault Response)
  | interrupted (fault : Fault)

namespace Ending

def answer? : Ending → Option (Except Fault Response)
  | .refused => some (.error Session.refusal)
  | .ended answer => some answer
  | .interrupted _ => none

def disconnects : Ending → Bool
  | .ended (.error cause) => Variant.awaiting.isConnectionFault cause
  | _ => false

def requests (request : Request) : Ending → List Request
  | .interrupted _ => []
  | _ => [request]

def events (request : Request) : Ending → List Event
  | .ended _ => [.sent request]
  | _ => []

variable {ending : Ending}

theorem requests_of_answer? {answer : Except Fault Response} (h : ending.answer? = some answer)
    (request : Request) : ending.requests request = [request] := by
  cases ending with
  | refused => rfl
  | ended => rfl
  | interrupted => cases h

theorem eq_ended_of_answer? {response : Response} (h : ending.answer? = some (.ok response)) :
    ending = .ended (.ok response) := by
  cases ending with
  | refused => cases h
  | ended =>
    cases h
    rfl
  | interrupted => cases h

theorem disconnects_of_answer? {cause : Fault} (h : ending.answer? = some (.error cause)) :
    ending.disconnects = Variant.awaiting.isConnectionFault cause := by
  cases ending with
  | refused =>
    cases h
    rfl
  | ended =>
    cases h
    rfl
  | interrupted => cases h

end Ending

/-- What becomes of an operation: how its attempts end and with which requests they are made, what
the transport sees of it, and its result once it has one. -/
@[ext]
structure Course (σ : Type) where
  endings : List Ending := []
  requests : List Request := []
  events : List Event := []
  result : Option (Except Fault (Option (Held σ))) := none

namespace Course

variable {σ : Type} {c d : Course σ} {outcome : Nat → Ending}

def idle : Course σ := {}

instance : Append (Course σ) where
  append c d :=
    { endings := c.endings ++ d.endings
      requests := c.requests ++ d.requests
      events := c.events ++ d.events
      result := c.result.or d.result }

theorem append_assoc (b c d : Course σ) : b ++ c ++ d = b ++ (c ++ d) :=
  Course.ext (List.append_assoc ..) (List.append_assoc ..) (List.append_assoc ..) Option.or_assoc

theorem idle_append (c : Course σ) : idle ++ c = c := rfl

theorem append_idle (c : Course σ) : c ++ idle = c :=
  Course.ext (List.append_nil _) (List.append_nil _) (List.append_nil _) Option.or_none

def attempt (request : Request) (ending : Ending) : Course σ where
  endings := [ending]
  requests := ending.requests request
  events := ending.events request

def pause (delay : Number) : Course σ where
  events := [.waited delay]

def Meets (c : Course σ) (outcome : Nat → Ending) : Prop :=
  ∀ count ending, c.endings[count]? = some ending → outcome count = ending

/-- The attempts of two operations end in the same way, as long as both go on. -/
def Agrees (c d : Course σ) : Prop :=
  ∀ (count : Nat) (ending ending' : Ending), c.endings[count]? = some ending →
    d.endings[count]? = some ending' → ending = ending'

theorem Meets.of_append (meets : (c ++ d).Meets outcome) :
    c.Meets outcome ∧ d.Meets fun count => outcome (c.endings.length + count) := by
  have hendings : (c ++ d).endings = c.endings ++ d.endings := rfl
  refine ⟨fun count ending h => meets count ending ?_, fun count ending h => meets _ ending ?_⟩
  · rw [hendings]
    exact Session.getElem?_append_of_getElem? h _
  · rw [hendings, List.getElem?_append_right (Nat.le_add_right _ _), Nat.add_sub_cancel_left, h]

theorem agrees_of_endings_eq {endings : List Ending} (hc : c.endings = endings)
    (hd : d.endings = endings) : c.Agrees d := by
  intro count ending ending' h h'
  rw [hc] at h
  rw [hd, h] at h'
  exact Option.some.inj h'

theorem exists_meets (c : Course σ) : ∃ outcome, c.Meets outcome :=
  ⟨fun count => c.endings[count]?.getD .refused, fun count ending h => by simp [h]⟩

/-- Where two operations agree, one account of how attempts end fits both. -/
theorem Agrees.exists_meets (agrees : c.Agrees d) :
    ∃ outcome, c.Meets outcome ∧ d.Meets outcome := by
  refine ⟨fun count => (c.endings[count]?.or d.endings[count]?).getD .refused,
    fun count ending h => by simp [h], fun count ending h => ?_⟩
  cases hc : c.endings[count]? with
  | none => simp [hc, h]
  | some ending' => simp [hc, agrees count ending' ending hc h]

/-- All attempts of an operation are made with the same request. -/
structure Carries (c : Course σ) (sent : Request) : Prop where
  requests : ∀ request ∈ c.requests, request = sent
  events : ∀ request, .sent request ∈ c.events → request = sent

variable {sent : Request}

theorem Carries.append (hc : c.Carries sent) (hd : d.Carries sent) : (c ++ d).Carries sent where
  requests _ hmem := (List.mem_append.1 hmem).elim (hc.requests _) (hd.requests _)
  events _ hmem := (List.mem_append.1 hmem).elim (hc.events _) (hd.events _)

theorem Carries.of_append (h : (c ++ d).Carries sent) : c.Carries sent where
  requests request hmem := h.requests request (List.mem_append_left _ hmem)
  events request hmem := h.events request (List.mem_append_left _ hmem)

theorem carries_attempt (sent : Request) (ending : Ending) :
    (attempt sent ending : Course σ).Carries sent := by
  cases ending <;> constructor <;> simp [attempt, Ending.requests, Ending.events]

theorem carries_pause (delay : Number) (sent : Request) : (pause delay : Course σ).Carries sent := by
  constructor <;> simp [pause]

end Course

namespace Held

variable {σ : Type} (x : Held σ)

def opened : Handle σ := ⟨0, x.uri, x.token, x.config, x.registry, false⟩

def request (call : Call) (new : Value) : Except Fault Request :=
  match call with
  | .read => x.opened.readRequest
  | .delete => x.opened.deleteRequest
  | .update => do
    x.opened.checkRequestAllowed
    let given ← Metadata.ofValue new
    x.metadata.checkImmutable given
    x.opened.updateRequest (x.metadata.merge given)

def renewed (made : Registration) : Held σ :=
  { x with metadata := made.metadata, uri := made.uri, token := made.token }

def conclusion (call : Call) : Ending → Except Fault (Option (Held σ))
  | .refused => .error Session.unavailability
  | .ended (.ok response) =>
    (Option.map x.renewed <$> x.opened.answer call response).mapError Session.throughTask
  | .ended (.error cause) => .error (if cause.interrupts then cause else Session.unavailability)
  | .interrupted fault => .error (Session.throughTask fault)

variable (call : Call) (sent : Request)

def conclude (ending : Ending) : Course σ :=
  { (Course.attempt sent ending : Course σ) with result := some (x.conclusion call ending) }

def attempts : (retries : Nat) → (outcome : Nat → Ending) → Course σ
  | 0, outcome => x.conclude call sent (outcome 0)
  | retries + 1, outcome =>
    if (outcome 0).disconnects then
      .attempt sent (outcome 0) ++
        (.pause x.config.delay ++ attempts retries fun count => outcome (1 + count))
    else x.conclude call sent (outcome 0)

def unauthorized : Course σ where
  result := some (.error (.serialization .longInteger))

/-- What is still to come of an operation. -/
def rest (stage : Stage) (outcome : Nat → Ending) : Course σ :=
  match stage with
  | .called =>
    if x.token.hasLongInteger then unauthorized
    else x.attempts call sent x.config.retryCount outcome
  | .attempting retries => x.attempts call sent retries outcome
  | .waiting retries => .pause x.config.delay ++ x.attempts call sent retries outcome
  | .finished => .idle

/-- The whole course of an operation which sends a request, when its attempts end in this way. -/
def course (outcome : Nat → Ending) : Course σ := x.rest call sent .called outcome

variable {x call sent}

theorem conclusion_of_answer? {ending : Ending} {cause : Fault}
    (h : ending.answer? = some (.error cause)) :
    x.conclusion call ending =
      .error (if cause.interrupts then cause else Session.unavailability) := by
  cases ending with
  | refused =>
    cases h
    rfl
  | ended =>
    cases h
    rfl
  | interrupted => cases h

theorem attempts_of_last {retries : Nat} {outcome : Nat → Ending}
    (h : retries = 0 ∨ (outcome 0).disconnects = false) :
    x.attempts call sent retries outcome = x.conclude call sent (outcome 0) := by
  cases retries with
  | zero => rfl
  | succ retries => rw [attempts, h.resolve_left (Nat.succ_ne_zero _), if_neg Bool.false_ne_true]

theorem isSome_result_attempts (retries : Nat) (outcome : Nat → Ending) :
    (x.attempts call sent retries outcome).result.isSome = true := by
  induction retries generalizing outcome with
  | zero => rfl
  | succ retries ih =>
    rw [attempts]
    split
    · exact ih _
    · rfl

theorem isSome_result_rest {stage : Stage} (h : stage ≠ .finished) (outcome : Nat → Ending) :
    (x.rest call sent stage outcome).result.isSome = true := by
  cases stage with
  | called =>
    rw [rest]
    split
    · rfl
    · exact isSome_result_attempts _ _
  | attempting retries => exact isSome_result_attempts _ _
  | waiting retries => exact isSome_result_attempts _ _
  | finished => exact absurd rfl h

theorem carries_conclude (ending : Ending) : (x.conclude call sent ending).Carries sent :=
  ⟨(Course.carries_attempt (σ := σ) sent ending).requests,
    (Course.carries_attempt (σ := σ) sent ending).events⟩

theorem carries_attempts (retries : Nat) (outcome : Nat → Ending) :
    (x.attempts call sent retries outcome).Carries sent := by
  induction retries generalizing outcome with
  | zero => exact carries_conclude _
  | succ retries ih =>
    rw [attempts]
    split
    · exact (Course.carries_attempt sent _).append ((Course.carries_pause _ sent).append (ih _))
    · exact carries_conclude _

theorem carries_rest (stage : Stage) (outcome : Nat → Ending) :
    (x.rest call sent stage outcome).Carries sent := by
  cases stage with
  | called =>
    rw [rest]
    split
    · exact ⟨nofun, nofun⟩
    · exact carries_attempts _ _
  | attempting retries => exact carries_attempts _ _
  | waiting retries => exact (Course.carries_pause _ sent).append (carries_attempts _ _)
  | finished => exact ⟨nofun, nofun⟩

variable (x call sent) in
/-- An operation comes from one stage to another one in so many steps of its own. Whatever happens
later, its course goes on from there. -/
structure Proceeds (steps : Nat) (stage : Stage) (share : Course σ) (stage' : Stage) : Prop where
  splits : ∀ outcome, share.Meets outcome → x.rest call sent stage outcome =
    share ++ x.rest call sent stage' fun count => outcome (share.endings.length + count)
  ends : share.result.isSome = true → stage' = .finished
  nears : stage' = .finished ∨
    stage'.stepsLeft x.config.retryCount + steps ≤ stage.stepsLeft x.config.retryCount

namespace Proceeds

variable {steps steps' retries : Nat} {stage stage' stage'' : Stage} {share share' : Course σ}
  {ending : Ending}

theorem refl (stage : Stage) : x.Proceeds call sent 0 stage .idle stage where
  splits outcome _ := by
    rw [Course.idle_append]
    congr 1
    funext count
    exact congrArg outcome (Nat.zero_add count).symm
  ends := nofun
  nears := .inr (Nat.le_refl _)

theorem finished (h : x.Proceeds call sent steps .finished share stage) : stage = .finished := by
  rcases h.nears with hstage | hleft
  · exact hstage
  · cases stage with
    | finished => rfl
    | _ => simp [Stage.stepsLeft] at hleft

theorem trans (h : x.Proceeds call sent steps stage share stage')
    (h' : x.Proceeds call sent steps' stage' share' stage'') :
    x.Proceeds call sent (steps + steps') stage (share ++ share') stage'' where
  splits outcome meets := by
    obtain ⟨hmeets, hmeets'⟩ := meets.of_append
    have hlength : (share ++ share').endings.length =
        share.endings.length + share'.endings.length := List.length_append
    rw [h.splits outcome hmeets, h'.splits _ hmeets', Course.append_assoc, hlength]
    simp only [Nat.add_assoc]
  ends hsome := by
    have hresult : (share ++ share').result = share.result.or share'.result := rfl
    rw [hresult, Option.isSome_or, Bool.or_eq_true] at hsome
    rcases hsome with hfirst | hlater
    · obtain rfl := h.ends hfirst
      exact h'.finished
    · exact h'.ends hlater
  nears := by
    rcases h.nears with rfl | hleft
    · exact .inl h'.finished
    · exact h'.nears.imp_right fun hleft' => by omega

theorem ended (steps : Nat) : x.Proceeds call sent steps .finished .idle .finished where
  splits := (refl .finished).splits
  ends := nofun
  nears := .inl rfl

theorem called (h : x.token.hasLongInteger = false) :
    x.Proceeds call sent 1 .called .idle (.attempting x.config.retryCount) where
  splits outcome meets := by
    rw [← (refl (.attempting x.config.retryCount)).splits outcome meets, rest, h]
    rfl
  ends := nofun
  nears := .inr (Nat.le_refl _)

theorem unauthorized (h : x.token.hasLongInteger = true) :
    x.Proceeds call sent 1 .called Held.unauthorized .finished where
  splits outcome _ := by
    rw [rest, h, if_pos rfl, rest, Course.append_idle]
  ends _ := rfl
  nears := .inl rfl

theorem waited (retries : Nat) :
    x.Proceeds call sent 1 (.waiting retries) (.pause x.config.delay) (.attempting retries) where
  splits outcome _ := by
    rw [rest, rest]
    congr 2
    funext count
    exact congrArg outcome (Nat.zero_add count).symm
  ends := nofun
  nears := .inr (Nat.le_refl _)

theorem repeated (h : ending.disconnects = true) (retries : Nat) :
    x.Proceeds call sent 1 (.attempting (retries + 1)) (.attempt sent ending)
      (.waiting retries) where
  splits outcome meets := by
    have hfirst : outcome 0 = ending := meets 0 ending rfl
    rw [rest, attempts, hfirst, if_pos h]
    rfl
  ends := nofun
  nears := .inr (by simp only [Stage.stepsLeft]; omega)

theorem concluded (h : retries = 0 ∨ ending.disconnects = false) :
    x.Proceeds call sent 1 (.attempting retries) (x.conclude call sent ending) .finished where
  splits outcome meets := by
    have hfirst : outcome 0 = ending := meets 0 ending rfl
    rw [rest, attempts_of_last (hfirst ▸ h), hfirst, rest, Course.append_idle]
  ends _ := rfl
  nears := .inl rfl

theorem interrupted (fault : Fault) (retries : Nat) :
    x.Proceeds call sent 1 (.waiting retries)
      (.pause x.config.delay ++ x.conclude call sent (.interrupted fault)) .finished where
  splits outcome meets := by
    have hfirst : outcome 0 = .interrupted fault := meets 0 _ rfl
    rw [rest, attempts_of_last (.inr (hfirst ▸ rfl)), hfirst, rest, Course.append_idle]
  ends _ := rfl
  nears := .inl rfl

section

variable (h : x.Proceeds call sent steps stage share stage') {outcome : Nat → Ending}
  (meets : share.Meets outcome)
include h meets

theorem eq_rest (hstage : stage' = .finished) : x.rest call sent stage outcome = share := by
  subst hstage
  rw [h.splits outcome meets, rest, Course.append_idle]

theorem carries : share.Carries sent :=
  (h.splits outcome meets ▸ carries_rest stage outcome).of_append

theorem events_prefix : share.events <+: (x.rest call sent stage outcome).events := by
  rw [h.splits outcome meets]
  exact List.prefix_append _ _

end

theorem isSome_result (h : x.Proceeds call sent steps .called share stage)
    (hsteps : 2 * x.config.retryCount + 2 ≤ steps) : share.result.isSome = true := by
  obtain ⟨outcome, meets⟩ := share.exists_meets
  have hstage : stage = .finished := by
    rcases h.nears with hstage | hleft
    · exact hstage
    · cases stage with
      | finished => rfl
      | _ =>
        simp only [Stage.stepsLeft] at hleft
        omega
  have hcalled : Stage.called ≠ .finished := nofun
  rw [← h.eq_rest meets hstage]
  exact isSome_result_rest hcalled outcome

end Proceeds

end Held

end ClientRegistration
