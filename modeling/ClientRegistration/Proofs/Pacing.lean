import ClientRegistration.Proofs.Pipeline
import ClientRegistration.Proofs.Settings
namespace ClientRegistration

namespace Binary64

def isAtLeastZero : Binary64 → Bool
  | .nan => false
  | .infinity negative => !negative
  | .finite negative exponent fraction => !negative || unitsOfFields exponent fraction == 0

theorem isAtLeastZero_iff {x : Binary64} :
    x.isAtLeastZero = true ↔ x.isNegative = false ∧ x ≠ .nan := by
  cases x with
  | nan => simp [isAtLeastZero]
  | infinity negative => simp [isAtLeastZero, isNegative]
  | finite negative exponent fraction => cases negative <;> simp [isAtLeastZero, isNegative]

end Binary64

namespace Number

def isAtLeastZero : Number → Bool
  | .int n => 0 ≤ n
  | .float x => x.isAtLeastZero

theorem isAtLeastZero_iff {number : Number} :
    number.isAtLeastZero = true ↔ number.isNegative = false ∧ number ≠ .float .nan := by
  cases number with
  | int n => simp [isAtLeastZero, isNegative]
  | float x => simp [isAtLeastZero, isNegative, Binary64.isAtLeastZero_iff]

end Number

namespace Config

variable {config : Config}

theorem make_int_eq {n : Int} (hn : 0 ≤ n) {delay : Value} (hdelay : ∀ b, delay ≠ .bool b)
    {number : Number} (hnumber : delay.number? = some number) :
    make (.int n) delay =
      if number.isNegative then .error .delayNegative else .ok ⟨n.toNat, number⟩ := by
  unfold make
  rw [hnumber]
  dsimp only
  rw [if_neg (Int.not_lt.2 hn)]
  cases delay with
  | bool b => exact absurd rfl (hdelay b)
  | _ => rfl

theorem make_eq_ok_iff {retryCount delay : Value} :
    make retryCount delay = .ok config ↔
      retryCount = .int config.retryCount ∧ (∀ b, delay ≠ .bool b) ∧
        delay.number? = some config.delay ∧ config.delay.isNegative = false := by
  constructor
  · intro h
    unfold make at h
    split at h
    · split at h
      · cases h
      · next n hn =>
        split at h
        · cases h
        · cases h
        · next number hdelay hnumber =>
          split at h
          · cases h
          · next hnegative =>
            cases h
            exact ⟨congrArg Value.int (Int.toNat_of_nonneg (Int.not_lt.1 hn)).symm, hdelay,
              hnumber, Bool.eq_false_iff.2 hnegative⟩
    · cases h
  · rintro ⟨rfl, hdelay, hnumber, hnegative⟩
    rw [make_int_eq (Int.natCast_nonneg _) hdelay hnumber, hnegative, if_neg Bool.false_ne_true,
      Int.toNat_natCast]

theorem withFields_nil (hdelay : config.delay.isNegative = false) :
    withFields config [] = .ok config := by
  have hnot (b : Bool) : Value.ofNumber config.delay ≠ .bool b := by
    cases config.delay <;> nofun
  have hnumber : (Value.ofNumber config.delay).number? = some config.delay := by
    cases config.delay <;> rfl
  simp only [withFields, Fields.get?, Option.getD_none,
    make_eq_ok_iff.2 ⟨rfl, hnot, hnumber, hdelay⟩]

/-- Settings as they come about: made of arguments, read from a mapping, or changed in a copy. -/
inductive Made (config : Config) : Prop where
  | constructed {positional : List Value} {named : Fields Text Value}
      (h : construct positional named = .ok config)
  | loaded {settings : Value} {start : Text} (h : fromMapping settings start = .ok config)
  | replaced {base : Config} {changes : Fields Text Value} (h : base.replace changes = .ok config)

theorem exists_make_of_withFields {base : Config} {fields : Fields Text Value}
    (h : withFields base fields = .ok config) :
    ∃ retryCount delay, make retryCount delay = .ok config := by
  unfold withFields at h
  dsimp only at h
  split at h
  · next made hmade =>
    cases h
    exact ⟨_, _, hmade⟩
  · cases h

theorem Made.exists_make (made : config.Made) :
    ∃ retryCount delay, make retryCount delay = .ok config := by
  cases made with
  | constructed h =>
    obtain ⟨fields, -, h⟩ := bind_eq_ok_iff.1 h
    exact exists_make_of_withFields h
  | loaded h =>
    obtain ⟨retryCount, -, h⟩ := bind_eq_ok_iff.1 h
    obtain ⟨delay, -, h⟩ := bind_eq_ok_iff.1 h
    exact exists_make_of_withFields h
  | replaced h =>
    obtain ⟨fields, -, h⟩ := bind_eq_ok_iff.1 h
    exact exists_make_of_withFields h

theorem Made.not_negative (made : config.Made) : config.delay.isNegative = false := by
  obtain ⟨retryCount, delay, hmake⟩ := made.exists_make
  exact (make_eq_ok_iff.1 hmake).2.2.2

theorem construct_eq_ok_iff {retryCount delay : Value} :
    construct [retryCount, delay] [] = .ok config ↔ make retryCount delay = .ok config := by
  have hfields : construct [retryCount, delay] [] =
      withFields standard [(retryCountName, retryCount), (delayName, delay)] := rfl
  have hretryCount : Fields.get? retryCountName
      [(retryCountName, retryCount), (delayName, delay)] = some retryCount := rfl
  have hdelay : Fields.get? delayName
      [(retryCountName, retryCount), (delayName, delay)] = some delay := rfl
  rw [hfields, withFields]
  simp only [hretryCount, hdelay, Option.getD_some]
  cases make retryCount delay <;> simp

end Config

namespace Session

variable {σ : Type}

theorem conclude_paced {s : Session σ} {number : Nat} {h : Handle σ}
    (found : s.handles[number]? = some h) (source : LogSource) (call : Call) (request : Request) :
    ∃ events, (s.run (conclude source number call request)).2.visible = s.visible ++ events ∧
      (∀ amount, .waited amount ∈ events → amount = h.config.delay) ∧
      (s.refuses = false → .sent request ∈ events) := by
  obtain ⟨-, events, hvisible, hevents⟩ := visible_conclude found source call request
  rw [attemptEvents_one, List.append_assoc] at hvisible
  refine ⟨_, hvisible, ?_, ?_⟩
  · intro amount hmem
    rcases List.mem_append.1 hmem with hmem | hmem
    · split at hmem <;> simp at hmem
    · rcases hevents _ hmem with heq | heq
      · cases heq
      · exact Event.waited.inj heq
  · intro hrefuses
    rw [hrefuses]
    exact List.mem_append_left _ (List.mem_singleton.2 rfl)

theorem carryOutFrom_paced {s : Session σ} {number : Nat} {h : Handle σ}
    (found : s.handles[number]? = some h) (source : LogSource) (call : Call) (request : Request) :
    ∃ events, (s.run (carryOutFrom source number call request)).2.visible = s.visible ++ events ∧
      (∀ amount, .waited amount ∈ events → amount = h.config.delay) ∧
      ((h.applyFilters s.filterState request).2.fault = none → s.refuses = false →
        ∃ attempted, .sent attempted ∈ events) := by
  cases happlied : h.applyFilters s.filterState request with
  | mk names applied =>
    have hfilters := run_applyFilters found happlied
    have hvisible := s.visible_filtered names applied
    have hnames (amount : Number) : Event.waited amount ∉ names.map .filtered := by simp
    rw [carryOutFrom_eq]
    cases hfault : applied.fault with
    | some fault =>
      rw [hfault] at hfilters
      rw [run_bind_of_error hfilters]
      refine ⟨names.map .filtered, hvisible, fun amount hmem => absurd hmem (hnames amount), ?_⟩
      rintro ⟨⟩
    | none =>
      rw [hfault] at hfilters
      rw [run_bind_of_ok hfilters]
      have found' : (s.filtered names applied).handles[number]? = some h := found
      obtain ⟨events, hafter, hwaits, hsent⟩ := conclude_paced found' source call applied.request
      rw [hvisible, List.append_assoc] at hafter
      refine ⟨_, hafter, ?_, ?_⟩
      · intro amount hmem
        rcases List.mem_append.1 hmem with hmem | hmem
        · exact absurd hmem (hnames amount)
        · exact hwaits amount hmem
      · intro _ hrefuses
        exact ⟨applied.request, List.mem_append_right _ (hsent hrefuses)⟩

end Session

namespace Config

/-- Settings that exist hold a delay which is not negative, so that it is zero or more unless it is
not-a-number. Two arguments make them exactly if these are their integer and their number. A request
that is carried out with them is attempted at least once, if the filters and the transport let it
through, and all waits are of their delay. -/
theorem Made.paces {config : Config} (made : config.Made) :
    config.delay.isNegative = false ∧
    (config.delay.isAtLeastZero = true ↔ config.delay ≠ .float .nan) ∧
    (∀ retryCount delay, construct [retryCount, delay] [] = .ok config ↔
      retryCount = .int config.retryCount ∧ (∀ b, delay ≠ .bool b) ∧
        delay.number? = some config.delay) ∧
    ∀ {σ : Type} {s : Session σ} {number : Nat} {h : Handle σ} {call : Call} {request : Request}
      {outcome : Except Fault (Option Nat) × Session σ},
      s.handles[number]? = some h → h.config = config →
      Session.Executed s number call request outcome →
      ∃ events, outcome.2.visible = s.visible ++ events ∧
        (∀ amount, .waited amount ∈ events → amount = config.delay) ∧
        ((h.applyFilters s.filterState request).2.fault = none → s.refuses = false →
          ∃ attempted, .sent attempted ∈ events) := by
  have hnegative := made.not_negative
  refine ⟨hnegative, ?_, ?_, ?_⟩
  · rw [Number.isAtLeastZero_iff, hnegative, eq_self, true_and]
  · intro retryCount delay
    rw [construct_eq_ok_iff, make_eq_ok_iff, hnegative, eq_self, and_true]
  · intro σ s number h call request outcome found hconfig executed
    obtain ⟨tasks, rfl⟩ := executed.eq found
    rw [← hconfig]
    exact Session.carryOutFrom_paced found s.variant.logSource call request

theorem Made.paces_of_standard :
    let h : Handle Unit := ⟨0, .text "u", .null, standard, .listed [], false⟩
    let s : Session Unit :=
      { variant := .blocking, script := .repeating (.ofText 500 (.text [])), filterState := ()
        handles := [h] }
    let request : Request := ⟨.text "GET", .text "u", [], []⟩
    standard.Made ∧ standard.delay.isAtLeastZero = true ∧
      ∃ attempted, .sent attempted ∈ (s.run (Session.carryOut 0 .read request)).2.visible := by
  intro h s request
  have hdelay : standard.delay.isNegative = false := by decide +kernel
  have harguments : signature.bind [] [] = .ok [] := rfl
  have hconstruct : construct [] [] = .ok standard := by
    rw [construct, harguments, ok_bind, withFields_nil hdelay]
  have made : standard.Made := .constructed hconstruct
  have executed : Session.Executed s 0 .read request (s.run (Session.carryOut 0 .read request)) :=
    .carriedOut rfl
  obtain ⟨-, hzero, -, hpaced⟩ := made.paces
  obtain ⟨events, hvisible, -, hattempt⟩ :=
    hpaced (show s.handles[0]? = some h from rfl) rfl executed
  refine ⟨made, hzero.2 (by decide +kernel), ?_⟩
  rw [hvisible]
  exact hattempt rfl rfl

/-- A delay which is not-a-number is accepted, though it is not zero or more. -/
theorem construct_accepts_nan :
    ∃ config, construct [.int 3, .float .nan] [] = .ok config ∧
      config.delay.isAtLeastZero = false :=
  ⟨⟨3, .float .nan⟩, construct_eq_ok_iff.2 rfl, rfl⟩

end Config

end ClientRegistration
