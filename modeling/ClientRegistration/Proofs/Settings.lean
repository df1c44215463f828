import ClientRegistration.Config
import ClientRegistration.Proofs.Binary64.Range
import ClientRegistration.Proofs.Value.Document
namespace ClientRegistration

namespace Value

/-- The infinities overflow as integers. -/
def OverflowsInteger (v : Value) : Prop := ∃ negative, v = .float (.infinity negative)

/-- Integers overflow as floating point numbers from halfway between the largest of these and the
power of two after it on. -/
def OverflowsBinary64 (v : Value) : Prop := ∃ n : Int, v = .int n ∧ 2 ^ 1024 ≤ n.natAbs + 2 ^ 970

theorem numberOr_eq_error_iff {α : Type} {flaw flaw' : NumeralFlaw} {found : Option α} :
    numberOr flaw found = .error flaw' ↔ found = none ∧ flaw' = flaw := by
  cases found with
  | none => simp [numberOr, eq_comm]
  | some a => simp [numberOr]

theorem number?_eq_infinity {v : Value} {negative : Bool}
    (h : v.number? = some (.float (.infinity negative))) : v = .float (.infinity negative) := by
  cases v <;> cases h
  rfl

theorem number?_eq_int {v : Value} {n : Int} (h : v.number? = some (.int n)) :
    v = .int n ∨ n = 0 ∨ n = 1 := by
  cases v with
  | bool b =>
    cases b with
    | false => cases h; exact .inr (.inl rfl)
    | true => cases h; exact .inr (.inr rfl)
  | _ => cases h <;> exact .inl rfl

theorem toInteger_of_overflows {v : Value} (h : v.OverflowsInteger) :
    v.toInteger = .error .infinite := by
  obtain ⟨negative, rfl⟩ := h
  rfl

theorem toInteger_flaw {v : Value} {flaw : NumeralFlaw} (h : v.toInteger = .error flaw) :
    flaw = .unreadable ∨ flaw = .infinite ∧ v.OverflowsInteger := by
  unfold toInteger at h
  split at h
  · cases h
  · next negative hnumber =>
    cases h
    exact .inr ⟨rfl, negative, number?_eq_infinity hnumber⟩
  · exact .inl (numberOr_eq_error_iff.1 h).2
  · exact .inl (numberOr_eq_error_iff.1 h).2

theorem toBinary64_of_overflows {v : Value} (h : v.OverflowsBinary64) :
    v.toBinary64 = .error .huge := by
  obtain ⟨n, rfl, hn⟩ := h
  exact numberOr_eq_error_iff.2 ⟨(Binary64.ofInt?_eq_none_iff n).2 hn, rfl⟩

theorem toBinary64_flaw {v : Value} {flaw : NumeralFlaw} (h : v.toBinary64 = .error flaw) :
    flaw = .unreadable ∨ flaw = .huge ∧ v.OverflowsBinary64 := by
  unfold toBinary64 at h
  split at h
  · cases h
  · next n hnumber =>
    obtain ⟨hnone, rfl⟩ := numberOr_eq_error_iff.1 h
    obtain rfl | rfl | rfl := number?_eq_int hnumber
    · exact .inr ⟨rfl, n, rfl, (Binary64.ofInt?_eq_none_iff n).1 hnone⟩
    · exact absurd hnone (by decide +kernel)
    · exact absurd hnone (by decide +kernel)
  · exact .inl (numberOr_eq_error_iff.1 h).2

end Value

namespace Config

theorem isInvalidValue_of_withFields {base : Config} {fields : Fields Text Value} {fault : Fault}
    (h : withFields base fields = .error fault) : fault.isInvalidValue = true := by
  unfold withFields at h
  dsimp only at h
  split at h
  · cases h
  · cases h
    rfl

def keyOf (start name : Text) : Text := Text.upper (start ++ name)

def readRetryCount (settings : Value) (start : Text) : Except Fault (Option Value) :=
  readSetting settings (keyOf start retryCountName) fun v => .int <$> v.toInteger

def readDelay (settings : Value) (start : Text) : Except Fault (Option Value) :=
  readSetting settings (keyOf start delayName) fun v => .float <$> v.toBinary64

theorem fromMapping_eq (settings : Value) (start : Text) :
    fromMapping settings start = (do
      let retryCount ← readRetryCount settings start
      let delay ← readDelay settings start
      withFields standard
        ((retryCount.map (retryCountName, ·)).toList ++ (delay.map (delayName, ·)).toList)) := rfl

/-- The fault of a value under a key from which no number can be read. -/
def faultOf (key : Text) (value : Value) : NumeralFlaw → Fault
  | .unreadable => .unreadableSetting key value
  | .infinite => .infiniteInteger
  | .huge => .hugeInteger

section

variable {settings : Value} {entries : Fields Value Value}
  (hentries : settings.entries? = some entries)

include hentries

theorem readSetting_eq (key : Text) (read : Value → Except NumeralFlaw Value) :
    readSetting settings key read =
      match entries.get? (.text key) with
      | none => .ok none
      | some value => ((read value).map some).mapError (faultOf key value) := by
  have hfind : Value.find entries (.text key) = .ok (entries.get? (.text key)) := rfl
  have hcontains : settings.contains (.text key) = .ok (entries.get? (.text key)).isSome := by
    cases settings <;> cases hentries <;> rfl
  have hsubscript {value : Value} (hvalue : entries.get? (.text key) = some value) :
      settings.subscript (.text key) = .ok value := by
    cases settings <;> cases hentries <;>
      simp [Value.subscript, Value.entries?, hfind, hvalue, pure, Except.pure]
  rw [readSetting, hcontains, ok_bind]
  cases hvalue : entries.get? (.text key) with
  | none => rfl
  | some value =>
    rw [Option.isSome_some, if_pos rfl, hsubscript hvalue, ok_bind]
    dsimp only
    cases read value with
    | ok number => rfl
    | error flaw => cases flaw <;> rfl

theorem readSetting_eq_error_iff {key : Text} {read : Value → Except NumeralFlaw Value}
    {fault : Fault} :
    readSetting settings key read = .error fault ↔
      ∃ value flaw, entries.get? (.text key) = some value ∧ read value = .error flaw ∧
        fault = faultOf key value flaw := by
  rw [readSetting_eq hentries]
  cases entries.get? (.text key) with
  | none => simp
  | some value =>
    cases hread : read value with
    | ok number => simp [Except.map, Except.mapError, hread]
    | error flaw => simp [Except.map, Except.mapError, hread, eq_comm]

theorem exists_readSetting_iff {key : Text} {read : Value → Except NumeralFlaw Value} :
    (∃ found, readSetting settings key read = .ok found) ↔
      ∀ value, entries.get? (.text key) = some value → ∃ number, read value = .ok number := by
  rw [readSetting_eq hentries]
  cases entries.get? (.text key) with
  | none => simp
  | some value =>
    cases hread : read value with
    | ok number => simp [Except.map, Except.mapError, hread]
    | error flaw => simp [Except.map, Except.mapError, hread]

theorem fault_of_readSetting {key : Text} {read : Value → Except NumeralFlaw Value}
    {overflow : NumeralFlaw} {Overflows : Value → Prop}
    (hread : ∀ value flaw, read value = .error flaw →
      flaw = .unreadable ∨ flaw = overflow ∧ Overflows value)
    {fault : Fault} (h : readSetting settings key read = .error fault) :
    fault.isInvalidValue = true ∨
      ∃ value, entries.get? (.text key) = some value ∧ Overflows value ∧
        fault = faultOf key value overflow := by
  obtain ⟨value, flaw, hvalue, hflaw, rfl⟩ := (readSetting_eq_error_iff hentries).1 h
  obtain rfl | ⟨rfl, hoverflows⟩ := hread value flaw hflaw
  · exact .inl rfl
  · exact .inr ⟨value, hvalue, hoverflows, rfl⟩

variable {start : Text}

theorem fault_of_readRetryCount {fault : Fault} (h : readRetryCount settings start = .error fault) :
    fault.isInvalidValue = true ∨
      (∃ value, entries.get? (.text (keyOf start retryCountName)) = some value ∧
        value.OverflowsInteger) ∧ fault = .infiniteInteger := by
  have hread (value : Value) (flaw : NumeralFlaw)
      (h : Value.int <$> value.toInteger = .error flaw) :=
    Value.toInteger_flaw (map_eq_error_iff.1 h)
  obtain hinvalid | ⟨value, hvalue, hoverflows, hfault⟩ := fault_of_readSetting hentries hread h
  · exact .inl hinvalid
  · exact .inr ⟨⟨value, hvalue, hoverflows⟩, hfault⟩

theorem fault_of_readDelay {fault : Fault} (h : readDelay settings start = .error fault) :
    fault.isInvalidValue = true ∨
      (∃ value, entries.get? (.text (keyOf start delayName)) = some value ∧
        value.OverflowsBinary64) ∧ fault = .hugeInteger := by
  have hread (value : Value) (flaw : NumeralFlaw)
      (h : Value.float <$> value.toBinary64 = .error flaw) :=
    Value.toBinary64_flaw (map_eq_error_iff.1 h)
  obtain hinvalid | ⟨value, hvalue, hoverflows, hfault⟩ := fault_of_readSetting hentries hread h
  · exact .inl hinvalid
  · exact .inr ⟨⟨value, hvalue, hoverflows⟩, hfault⟩

theorem readRetryCount_overflows {value : Value}
    (hvalue : entries.get? (.text (keyOf start retryCountName)) = some value)
    (hoverflows : value.OverflowsInteger) :
    readRetryCount settings start = .error .infiniteInteger :=
  (readSetting_eq_error_iff hentries).2
    ⟨value, .infinite, hvalue, map_eq_error_iff.2 (Value.toInteger_of_overflows hoverflows), rfl⟩

theorem readDelay_overflows {value : Value}
    (hvalue : entries.get? (.text (keyOf start delayName)) = some value)
    (hoverflows : value.OverflowsBinary64) :
    readDelay settings start = .error .hugeInteger :=
  (readSetting_eq_error_iff hentries).2
    ⟨value, .huge, hvalue, map_eq_error_iff.2 (Value.toBinary64_of_overflows hoverflows), rfl⟩

theorem exists_readRetryCount_iff :
    (∃ found, readRetryCount settings start = .ok found) ↔
      ∀ value, entries.get? (.text (keyOf start retryCountName)) = some value →
        ∃ n, value.toInteger = .ok n := by
  rw [readRetryCount, exists_readSetting_iff hentries]
  simp only [exists_map_eq_ok_iff]

theorem fault_of_fromMapping {fault : Fault} (h : fromMapping settings start = .error fault) :
    fault.isInvalidValue = true ∨
      (∃ value, entries.get? (.text (keyOf start retryCountName)) = some value ∧
        value.OverflowsInteger) ∧ fault = .infiniteInteger ∨
      (∀ value, entries.get? (.text (keyOf start retryCountName)) = some value →
        ∃ n, value.toInteger = .ok n) ∧
        (∃ value, entries.get? (.text (keyOf start delayName)) = some value ∧
          value.OverflowsBinary64) ∧ fault = .hugeInteger := by
  rw [fromMapping_eq] at h
  obtain h | ⟨retryCount, hretryCount, h⟩ := bind_eq_error_iff.1 h
  · exact (fault_of_readRetryCount hentries h).imp_right .inl
  obtain h | ⟨delay, hdelay, h⟩ := bind_eq_error_iff.1 h
  · have hreadable := (exists_readRetryCount_iff hentries).1 ⟨retryCount, hretryCount⟩
    exact (fault_of_readDelay hentries h).imp_right fun h => .inr ⟨hreadable, h⟩
  · exact .inl (isInvalidValue_of_withFields h)

theorem fromMapping_eq_error_infiniteInteger_iff :
    fromMapping settings start = .error .infiniteInteger ↔
      ∃ value, entries.get? (.text (keyOf start retryCountName)) = some value ∧
        value.OverflowsInteger := by
  constructor
  · intro h
    obtain hinvalid | ⟨hoverflows, -⟩ | ⟨-, -, hhuge⟩ := fault_of_fromMapping hentries h
    · cases hinvalid
    · exact hoverflows
    · cases hhuge
  · rintro ⟨value, hvalue, hoverflows⟩
    rw [fromMapping_eq, readRetryCount_overflows hentries hvalue hoverflows, error_bind]

/-- The delay is read after the number of repetitions, which has to be readable. -/
theorem fromMapping_eq_error_hugeInteger_iff :
    fromMapping settings start = .error .hugeInteger ↔
      (∀ value, entries.get? (.text (keyOf start retryCountName)) = some value →
        ∃ n, value.toInteger = .ok n) ∧
      ∃ value, entries.get? (.text (keyOf start delayName)) = some value ∧
        value.OverflowsBinary64 := by
  constructor
  · intro h
    obtain hinvalid | ⟨-, hinfinite⟩ | ⟨hreadable, hoverflows, -⟩ :=
      fault_of_fromMapping hentries h
    · cases hinvalid
    · cases hinfinite
    · exact ⟨hreadable, hoverflows⟩
  · rintro ⟨hreadable, value, hvalue, hoverflows⟩
    obtain ⟨retryCount, hretryCount⟩ := (exists_readRetryCount_iff hentries).2 hreadable
    rw [fromMapping_eq, hretryCount, ok_bind, readDelay_overflows hentries hvalue hoverflows,
      error_bind]

theorem isInvalidValue_of_fromMapping {fault : Fault}
    (h : fromMapping settings start = .error fault) :
    fault.isInvalidValue = false ↔ fault = .infiniteInteger ∨ fault = .hugeInteger := by
  constructor
  · intro hvalid
    obtain hinvalid | ⟨-, hinfinite⟩ | ⟨-, -, hhuge⟩ := fault_of_fromMapping hentries h
    · cases hvalid.symm.trans hinvalid
    · exact .inl hinfinite
    · exact .inr hhuge
  · rintro (rfl | rfl) <;> rfl

end

/-- Settings in a mapping are read, or refused as invalid values, but for two kinds of numbers.
Settings overflow exactly if the number of repetitions is an infinity, or if this can be read and
the delay is an integer which is too large for it. -/
theorem fromMapping_refuses_or_overflows {settings : Value} {entries : Fields Value Value}
    (hentries : settings.entries? = some entries) (start : Text) :
    let retryCount? := entries.get? (.text (keyOf start retryCountName))
    let delay? := entries.get? (.text (keyOf start delayName))
    (fromMapping settings start = .error .infiniteInteger ↔
      ∃ value, retryCount? = some value ∧ value.OverflowsInteger) ∧
    (fromMapping settings start = .error .hugeInteger ↔
      (∀ value, retryCount? = some value → ∃ n, value.toInteger = .ok n) ∧
        ∃ value, delay? = some value ∧ value.OverflowsBinary64) ∧
    ∀ fault, fromMapping settings start = .error fault →
      (fault.isInvalidValue = false ↔ fault = .infiniteInteger ∨ fault = .hugeInteger) :=
  ⟨fromMapping_eq_error_infiniteInteger_iff hentries,
    fromMapping_eq_error_hugeInteger_iff hentries,
    fun _ h => isInvalidValue_of_fromMapping hentries h⟩

theorem fromMapping_refuses_or_overflows_of_word :
    let entries : Fields Value Value := [(.text "APP_CONNECTION_DELAY", .text "soon")]
    (Value.mapping entries).entries? = some entries ∧
      ∃ fault, fromMapping (.mapping entries) "app_" = .error fault ∧
        fault.isInvalidValue = true := by
  intro entries
  have hentries : (Value.mapping entries).entries? = some entries := rfl
  have hdelay : keyOf "app_" delayName = "APP_CONNECTION_DELAY" := by decide +kernel
  have hother : keyOf "app_" retryCountName ≠ "APP_CONNECTION_DELAY" := by decide +kernel
  have hretryCount : readRetryCount (.mapping entries) "app_" = .ok none := by
    rw [readRetryCount, readSetting_eq hentries]
    simp [entries, Fields.get?, hother.symm]
  have hvalue : entries.get? (.text (keyOf "app_" delayName)) = some (.text "soon") := by
    simp [entries, Fields.get?, hdelay]
  have hfault : readDelay (.mapping entries) "app_" =
      .error (.unreadableSetting (keyOf "app_" delayName) (.text "soon")) :=
    (readSetting_eq_error_iff hentries).2 ⟨_, .unreadable, hvalue, rfl, rfl⟩
  have hfails : fromMapping (.mapping entries) "app_" =
      .error (.unreadableSetting (keyOf "app_" delayName) (.text "soon")) := by
    rw [fromMapping_eq, hretryCount, ok_bind, hfault, error_bind]
  obtain ⟨-, -, hexact⟩ := fromMapping_refuses_or_overflows hentries "app_"
  refine ⟨hentries, _, hfails, ?_⟩
  rw [← Bool.not_eq_false, hexact _ hfails]
  rintro (h | h) <;> cases h

/-- An infinite number of repetitions overflows, which is no fault of an invalid value. -/
theorem fromMapping_overflows :
    let entries : Fields Value Value :=
      [(.text "CONNECTION_RETRY_COUNT", .float (.infinity false))]
    fromMapping (.mapping entries) [] = .error .infiniteInteger ∧
      Fault.infiniteInteger.isInvalidValue = false := by
  intro entries
  have hentries : (Value.mapping entries).entries? = some entries := rfl
  have hkey : keyOf [] retryCountName = "CONNECTION_RETRY_COUNT" := by decide +kernel
  have hvalue : entries.get? (.text (keyOf [] retryCountName)) =
      some (.float (.infinity false)) := by
    simp [entries, Fields.get?, hkey]
  refine ⟨?_, rfl⟩
  rw [fromMapping_eq, readRetryCount_overflows hentries hvalue ⟨false, rfl⟩, error_bind]

end Config

end ClientRegistration
