import DurableFlow.Proofs.Decimal.Digits
import DurableFlow.Proofs.Settings.Stored

/-!
What a load hands out. The settings of the file are overridden by the variables that hold a value of
their setting, and the others count as not set. Only one kind of variable gets in the way: a time
allowed for requests that is written in digits and cannot be read as a number.
-/

namespace DurableFlow.SettingsStore

/-! ### What the variables give -/

/-- The name of a policy in letters of either case. -/
def givenPolicy? (env : Environment) : Option CyclePolicy :=
  (env.lookup "STEPFLOW_CYCLE_POLICY").bind fun given => CyclePolicy.ofName? (Text.lower given)

def givenDate? (env : Environment) : Option String :=
  (env.lookup "STEPFLOW_COMPATIBILITY_DATE").filter CompilerSettings.isDate

def IsDigits (given : String) : Prop := given ≠ "" ∧ given.toList.all Text.isDigitLike = true

instance (given : String) : Decidable (IsDigits given) := inferInstanceAs (Decidable (_ ∧ _))

def number? (given : String) : Option Nat :=
  if IsDigits given ∧ Decimal.Readable given.toList then some (Decimal.ofText given.toList) else none

def givenTimeout? (env : Environment) : Option Nat :=
  ((env.lookup "STEPFLOW_HTTP_TIMEOUT_MS").bind number?).filter fun n => decide (0 < n)

/-- The time allowed for requests is given in digits that are no number, because one of them has no
place value or because there are too many of them. -/
def Misread (env : Environment) : Prop :=
  ∃ given, env.lookup "STEPFLOW_HTTP_TIMEOUT_MS" = some given ∧ IsDigits given ∧
    ¬Decimal.Readable given.toList

/-- Settings with the values that the variables give. -/
def withGiven (env : Environment) (s : Settings) : Settings :=
  { s with compiler :=
    { s.compiler with
      cyclePolicy := (givenPolicy? env).getD s.compiler.cyclePolicy
      compatibilityDate := (givenDate? env).getD s.compiler.compatibilityDate
      httpTimeoutMs := ((givenTimeout? env).map Int.ofNat).getD s.compiler.httpTimeoutMs } }

theorem number?_eq_some {given : String} {n : Nat} (h : number? given = some n) :
    Decimal.Readable given.toList ∧ n = Decimal.ofText given.toList := by
  rw [number?] at h
  split at h
  · next hgiven => exact ⟨hgiven.2, (Option.some.inj h).symm⟩
  · contradiction

theorem givenTimeout?_eq_some {env : Environment} {n : Nat} (h : givenTimeout? env = some n) :
    0 < n ∧ Decimal.Limited n := by
  obtain ⟨hnumber, hpos⟩ := Option.filter_eq_some_iff.mp h
  obtain ⟨given, -, hnumber⟩ := Option.bind_eq_some_iff.mp hnumber
  obtain ⟨⟨-, hlength⟩, rfl⟩ := number?_eq_some hnumber
  refine ⟨by simpa using hpos, ?_⟩
  have hdigits : ∀ d ∈ given.toList.filterMap Text.decimalValue?, d < 10 := by
    intro d hd
    obtain ⟨c, -, hc⟩ := List.mem_filterMap.mp hd
    exact Decimal.decimalValueFrom_lt hc
  exact Decimal.limited_ofDigits hdigits ((List.length_filterMap_le _ _).trans hlength) false

theorem valid_withGiven (env : Environment) {s : Settings} (h : s.compiler.Valid) :
    (withGiven env s).compiler.Valid := by
  have hdate : CompilerSettings.isDate (withGiven env s).compiler.compatibilityDate = true := by
    cases hgiven : givenDate? env with
    | none => simpa [withGiven, hgiven] using h.date
    | some date => simpa [withGiven, hgiven] using (Option.filter_eq_some_iff.mp hgiven).2
  have htimeout : 0 < (withGiven env s).compiler.httpTimeoutMs ∧
      Decimal.Limited (withGiven env s).compiler.httpTimeoutMs := by
    cases hgiven : givenTimeout? env with
    | none => simpa [withGiven, hgiven] using ⟨h.timeout_pos, h.timeout_limited⟩
    | some n => simpa [withGiven, hgiven] using givenTimeout?_eq_some hgiven
  exact { h with date := hdate, timeout_pos := htimeout.1, timeout_limited := htimeout.2 }

/-! ### One variable after the other -/

variable (env : Environment)

theorem overridePolicy_result (s : CompilerSettings) :
    (overridePolicy env s).result =
      .ok { s with cyclePolicy := (givenPolicy? env).getD s.cyclePolicy } := by
  rw [overridePolicy, givenPolicy?]
  cases env.lookup "STEPFLOW_CYCLE_POLICY" with
  | none => rfl
  | some given =>
      dsimp only [Option.bind_some]
      cases CyclePolicy.ofName? (Text.lower given) with
      | none => rfl
      | some policy => rfl

theorem overrideDate_result (s : CompilerSettings) :
    (overrideDate env s).result =
      .ok { s with compatibilityDate := (givenDate? env).getD s.compatibilityDate } := by
  rw [overrideDate, givenDate?]
  cases env.lookup "STEPFLOW_COMPATIBILITY_DATE" with
  | none => rfl
  | some given =>
      dsimp only [Option.getD_some, Option.filter]
      split
      next hempty =>
        rw [hempty]
        rfl
      · split <;> rfl

theorem toInt_digits {given : String} (h : IsDigits given) :
    (Decimal.Readable given.toList → (Json.str given).toInt = .ok (Decimal.ofText given.toList)) ∧
      (¬Decimal.Readable given.toList →
        ∃ reason, (Json.str given).toInt = .error (.badValue reason)) := by
  have hdigits := List.all_eq_true.mp h.2
  refine ⟨fun hreadable => ?_, fun hunreadable => ?_⟩
  · rw [Json.toInt, Decimal.readInt_of_readable hdigits h.1 hreadable]
  · obtain ⟨fault, hfault⟩ := Decimal.readInt_of_not_readable hdigits hunreadable
    rw [Json.toInt, hfault]
    cases fault with
    | tooLong count => exact ⟨_, rfl⟩
    | malformed => exact ⟨_, rfl⟩

/-- What is given for the time allowed for requests counts only when it is made of digits. -/
theorem overrideTimeout_of_not_digits {given : String}
    (hlookup : env.lookup "STEPFLOW_HTTP_TIMEOUT_MS" = some given) (h : ¬IsDigits given)
    (s : CompilerSettings) : (overrideTimeout env s).result = .ok s := by
  simp only [overrideTimeout, hlookup, Option.getD_some]
  split
  · rfl
  next hne =>
    rw [if_neg fun hall => h ⟨hne, hall⟩]
    rfl

theorem overrideTimeout_of_digits {given : String}
    (hlookup : env.lookup "STEPFLOW_HTTP_TIMEOUT_MS" = some given) (h : IsDigits given)
    (s : CompilerSettings) :
    (overrideTimeout env s).result =
      (Json.str given).toInt.map fun n => if 0 < n then { s with httpTimeoutMs := n } else s := by
  simp only [overrideTimeout, hlookup, Option.getD_some, if_neg h.1, h.2, if_true]
  rw [Outcome.result_bind, Outcome.result_lift]
  cases (Json.str given).toInt with
  | error fault => rfl
  | ok n =>
      by_cases hpos : 0 < n
      · simp [Except.bind, Except.map, hpos]
      · simp only [Except.bind, Except.map, if_neg hpos]
        rfl

/-- The time allowed for requests is overridden, or what stands for it cannot be converted. -/
theorem overrideTimeout_result (s : CompilerSettings) :
    (¬Misread env → (overrideTimeout env s).result =
        .ok { s with httpTimeoutMs := ((givenTimeout? env).map Int.ofNat).getD s.httpTimeoutMs }) ∧
      (Misread env → ∃ reason, (overrideTimeout env s).result = .error (.badValue reason)) := by
  constructor
  · intro hread
    rw [givenTimeout?]
    cases hlookup : env.lookup "STEPFLOW_HTTP_TIMEOUT_MS" with
    | none =>
        simp only [overrideTimeout, hlookup]
        rfl
    | some given =>
        by_cases hdigits : IsDigits given
        · have hreadable : Decimal.Readable given.toList :=
            not_not.mp fun hunreadable => hread ⟨given, hlookup, hdigits, hunreadable⟩
          rw [overrideTimeout_of_digits env hlookup hdigits, (toInt_digits hdigits).1 hreadable,
            Option.bind_some, number?, if_pos ⟨hdigits, hreadable⟩, Option.filter, Except.map]
          by_cases hpos : 0 < Decimal.ofText given.toList
          · simp [hpos]
          · simp [hpos]
        · have hnumber : number? given = none := if_neg fun hgiven => hdigits hgiven.1
          rw [overrideTimeout_of_not_digits env hlookup hdigits, Option.bind_some, hnumber]
          rfl
  · rintro ⟨given, hlookup, hdigits, hunreadable⟩
    obtain ⟨reason, hreason⟩ := (toInt_digits hdigits).2 hunreadable
    exact ⟨reason, by rw [overrideTimeout_of_digits env hlookup hdigits, hreason]; rfl⟩

/-! ### All of them -/

theorem override_result (s : Settings) :
    (¬Misread env → (override env s).result = .ok (withGiven env s)) ∧
      (Misread env → ∃ reason, (override env s).result = .error (.badValue reason)) := by
  obtain ⟨hread, hmisread⟩ := overrideTimeout_result env
    { s.compiler with
      cyclePolicy := (givenPolicy? env).getD s.compiler.cyclePolicy
      compatibilityDate := (givenDate? env).getD s.compiler.compatibilityDate }
  rw [override, Outcome.result_bind, overridePolicy_result]
  dsimp only [Except.bind]
  rw [Outcome.result_bind, overrideDate_result]
  dsimp only [Except.bind]
  rw [Outcome.result_bind]
  refine ⟨fun h => ?_, fun h => ?_⟩
  · rw [hread h]
    rfl
  · obtain ⟨reason, hreason⟩ := hmisread h
    exact ⟨reason, by rw [hreason]; rfl⟩

theorem valid_override {env : Environment} {s s' : Settings} (hs : s.compiler.Valid)
    (h : (override env s).result = .ok s') : s'.compiler.Valid ∧ s'.version = s.version := by
  obtain ⟨hread, hmisread⟩ := override_result env s
  by_cases hm : Misread env
  · obtain ⟨reason, hreason⟩ := hmisread hm
    rw [hreason] at h
    contradiction
  · rw [hread hm] at h
    obtain rfl := Except.ok.inj h
    exact ⟨valid_withGiven env hs, rfl⟩

/-- Whatever is in the settings file and whatever the variables hold: the values that the variables give,
with the settings of the file for the rest, keep the rules of their fields, and a load hands them out or
fails. It fails exactly when the time allowed for requests is misread. -/
theorem load_withGiven (path shownPath : String) (fs : Files) :
    let store : SettingsStore := { path := path, shownPath := shownPath }
    let given := withGiven env (store.readFile fs).1
    given.compiler.Valid ∧
      ((store.load fs env).2.result = .ok given ↔ ¬Misread env) ∧
      ((∃ reason, (store.load fs env).2.result = .error (.badValue reason)) ↔ Misread env) := by
  intro store given
  obtain ⟨hread, hmisread⟩ := override_result env (store.readFile fs).1
  have hload : (store.load fs env).2.result = (override env (store.readFile fs).1).result := rfl
  rw [hload]
  refine ⟨valid_withGiven env (valid_readFile store fs), ⟨fun h hm => ?_, hread⟩,
    ⟨fun h => ?_, hmisread⟩⟩
  · obtain ⟨reason, hreason⟩ := hmisread hm
    rw [hreason] at h
    contradiction
  · obtain ⟨reason, hreason⟩ := h
    by_contra hm
    rw [hread hm] at hreason
    contradiction

/-- A superscript two is a digit without a place value. It is no valid time, and the load fails. -/
theorem load_superscript :
    let env := [("STEPFLOW_HTTP_TIMEOUT_MS", "²")]
    let store : SettingsStore := { path := "s.json", shownPath := "s.json" }
    givenTimeout? env = none ∧
      (store.load {} env).2.result =
        .error (.badValue "invalid literal for int() with base 10: '²'") := by
  decide

end DurableFlow.SettingsStore
