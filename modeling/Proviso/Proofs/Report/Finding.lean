/-
  Proviso/Proofs/Report/Finding.lean
  ==================================
  **How a value stands to a draft**, and what is handed out for it.

  `Finds` tells a finding from what the draft spells, from its verdict on the value and from its
  wording; `examine` finds exactly that (`examine_eq_ok_iff`).  It fails on malformed instructions
  and unknown names only (`examine_eq_error`), never because of the value.

  So a validation that fails because of the value is one that found a mismatch
  (`validate_eq_failed_iff`), and each report that is handed out is the one on a finding
  (`validate_eq_report_iff`).
-/
import Proviso.Proofs.Draft.Reading
import Proviso.Proofs.Instruction.Height
import Proviso.Validate

namespace Proviso

/-! ### Errors -/

theorem Requirement.evaluate_eq_error {registry : Registry} {r : Requirement} {value : Json}
    {e : Error} (h : (r.evaluate registry value).result = .error e) :
    e = .tooDeep ∨ ∃ name, e = .unknownCheck name := by
  rcases Instruction.evaluateWithin_eq_error h with ⟨-, he⟩ | ⟨c, -, -, he⟩
  · exact Or.inl he
  · exact Or.inr ⟨c.name, he⟩

theorem Requirement.describe_eq_error {registry : Registry} {r : Requirement} {e : Error}
    (h : r.describe registry = .error e) : e = .tooDeep ∨ ∃ name, e = .unknownCheck name := by
  rcases Instruction.describeWithin_eq_error h with ⟨-, he⟩ | ⟨c, -, -, he⟩
  · exact Or.inl he
  · exact Or.inr ⟨c.name, he⟩

namespace Draft

variable {registry : Registry} {d : Draft} {value : Json}

/-! ### What is asked of a value -/

/-- The value passes without a look at any condition. -/
def Bypasses (d : Draft) (value : Json) : Prop :=
  d.options.allowAbsent = true ∧ value = .null

theorem bypasses_iff :
    d.Bypasses value ↔ (d.options.allowAbsent && value.isNull) = true := by
  cases value <;> simp [Bypasses, Json.isNull]

/-- What the value is held against otherwise: the tree the draft spells, or that the value is
    present if that tree has no conditions. -/
def Asks (d : Draft) (t : Requirement) : Prop :=
  ∃ r, d.normalize.result = .ok r ∧ t = if 0 < r.countChecks then r else .present

theorem requirement_eq_ok_iff {t : Requirement} :
    d.requirement.result = .ok t ↔ d.Asks t := by
  rw [requirement, Logged.result_bind_eq_ok_iff]
  refine exists_congr fun r => and_congr_right fun _ => ?_
  simp [Requirement.hasChecks, eq_comm]

theorem Asks.countChecks_pos {t : Requirement} (h : d.Asks t) : 0 < t.countChecks := by
  obtain ⟨r, -, rfl⟩ := h
  split
  · assumption
  · exact Nat.one_pos

theorem Asks.unique {t u : Requirement} (ht : d.Asks t) (hu : d.Asks u) : t = u := by
  rw [← requirement_eq_ok_iff] at ht hu
  rw [ht] at hu
  exact Except.ok.inj hu

/-! ### Findings -/

/-- How a value stands to a draft. -/
inductive Finds (registry : Registry) (d : Draft) (value : Json) : Finding → Prop where
  | bypassed (h : d.Bypasses value) : Finds registry d value .bypassed
  | met {t} (h : ¬ d.Bypasses value) (hasks : d.Asks t)
      (hverdict : (t.evaluate registry value).result = .ok true) : Finds registry d value (.met t)
  | unmet {t expected} (h : ¬ d.Bypasses value) (hasks : d.Asks t)
      (hverdict : (t.evaluate registry value).result = .ok false)
      (hwording : t.describe registry = .ok expected) :
      Finds registry d value (.unmet t ⟨expected, value.describe true⟩)

theorem examine_eq_ok_iff {finding : Finding} :
    (d.examine registry value).result = .ok finding ↔ d.Finds registry value finding := by
  rw [examine]
  by_cases h : d.Bypasses value
  · rw [if_pos (bypasses_iff.mp h)]
    constructor
    · intro hfound
      cases hfound
      exact .bypassed h
    · intro hfinds
      cases hfinds with
      | bypassed => rfl
      | met hnot => exact absurd h hnot
      | unmet hnot => exact absurd h hnot
  · rw [if_neg (mt bypasses_iff.mpr h), Logged.result_bind_eq_ok_iff]
    constructor
    · rintro ⟨t, hasks, hfound⟩
      rw [requirement_eq_ok_iff] at hasks
      obtain ⟨verdict, hverdict, hfound⟩ := Logged.result_bind_eq_ok_iff.mp hfound
      cases verdict with
      | true =>
        cases hfound
        exact .met h hasks hverdict
      | false =>
        obtain ⟨expected, hwording, hfound⟩ := Logged.result_bind_eq_ok_iff.mp hfound
        cases hfound
        exact .unmet h hasks hverdict hwording
    · intro hfinds
      cases hfinds with
      | bypassed hpass => exact absurd hpass h
      | @met t _ hasks hverdict =>
        refine ⟨t, requirement_eq_ok_iff.mpr hasks, ?_⟩
        exact Logged.result_bind_eq_ok_iff.mpr ⟨true, hverdict, rfl⟩
      | @unmet t expected _ hasks hverdict hwording =>
        refine ⟨t, requirement_eq_ok_iff.mpr hasks, ?_⟩
        refine Logged.result_bind_eq_ok_iff.mpr ⟨false, hverdict, ?_⟩
        exact Logged.result_bind_eq_ok_iff.mpr ⟨expected, hwording, rfl⟩

/-- Examining fails on the instruction alone. -/
theorem examine_eq_error {e : Error} (h : (d.examine registry value).result = .error e) :
    e.isStructural = true ∨ ∃ name, e = .unknownCheck name := by
  have hlookup : (e = .tooDeep ∨ ∃ name, e = .unknownCheck name) →
      e.isStructural = true ∨ ∃ name, e = .unknownCheck name := by
    rintro (rfl | he)
    · exact Or.inl rfl
    · exact Or.inr he
  rw [examine] at h
  split at h
  · cases h
  rcases Logged.result_bind_eq_error_iff.mp h with h | ⟨t, -, h⟩
  · rcases Logged.result_bind_eq_error_iff.mp h with h | ⟨r, -, h⟩
    · exact Or.inl (isStructural_of_normalize h)
    · cases h
  rcases Logged.result_bind_eq_error_iff.mp h with h | ⟨verdict, -, h⟩
  · exact hlookup (Requirement.evaluate_eq_error h)
  cases verdict with
  | true => cases h
  | false =>
    rcases Logged.result_bind_eq_error_iff.mp h with h | ⟨expected, -, h⟩
    · exact hlookup (Requirement.describe_eq_error h)
    · cases h

end Draft

/-! ### Defaults -/

/-- What the settings have in place of the value of a report. -/
def Settings.DefaultsTo (s : Settings) (registry : Registry) (rep : Report) (j : Json) : Prop :=
  match s.default with
  | none => j = .null
  | some (.value given) => j = given
  | some (.computed provider) => (provider rep registry).result = .ok j

theorem Settings.defaultFor_eq_ok_iff {s : Settings} {registry : Registry} {rep : Report}
    {j : Json} : (s.defaultFor registry rep).result = .ok j ↔ s.DefaultsTo registry rep j := by
  rw [defaultFor, DefaultsTo]
  cases s.default with
  | none => simp [eq_comm]
  | some default =>
    cases default with
    | value given => simp [eq_comm]
    | computed provider =>
      simp only [Logged.mapError]
      cases (provider rep registry).result <;> simp [Except.mapError]

/-- Only a provider fails to give a default. -/
theorem Settings.defaultFor_eq_error {s : Settings} {registry : Registry} {rep : Report} {e : Error}
    (h : (s.defaultFor registry rep).result = .error e) :
    ∃ provider text, s.default = some (.computed provider) ∧
      (provider rep registry).result = .error text ∧ e = .defaultValue text := by
  rw [defaultFor] at h
  split at h
  · cases h
  · cases h
  · next provider hdefault =>
    rw [Logged.mapError] at h
    cases hresult : (provider rep registry).result with
    | ok j =>
      rw [hresult] at h
      cases h
    | error text =>
      rw [hresult] at h
      cases h
      exact ⟨provider, text, hdefault, hresult, rfl⟩

theorem Settings.isFailure_of_defaultFor {s : Settings} {registry : Registry} {rep : Report}
    {e : Error} (h : (s.defaultFor registry rep).result = .error e) : e.isFailure = false := by
  obtain ⟨provider, text, -, -, rfl⟩ := defaultFor_eq_error h
  rfl

/-! ### What is handed out -/

theorem Report.result_handOut (rep : Report) : rep.handOut.result =
    .ok (if rep.options.returnFullResult then .report rep else .value rep.finalValue) := rfl

theorem Report.handOut_eq_report_iff {rep rep' : Report} :
    rep.handOut.result = .ok (.report rep') ↔
      rep'.options.returnFullResult = true ∧ rep = rep' := by
  rw [result_handOut]
  constructor
  · intro h
    split at h
    · next hfull =>
      cases h
      exact ⟨hfull, rfl⟩
    · cases h
  · rintro ⟨hfull, rfl⟩
    rw [if_pos hfull]

namespace Draft

variable {registry : Registry} {d : Draft} {value : Json}

theorem conclude_unmet_eq_fail {t : Requirement} {m : Mismatch}
    (h : d.options.throwOnFailure = true) :
    d.conclude registry value (.unmet t m) =
      ((Finding.unmet t m).report d.options value).logOutcome >>= fun _ =>
        Logged.fail (.failed ((Finding.unmet t m).report d.options value)) := by
  rw [conclude]
  simp [Finding.report, h]

theorem conclude_unmet_of_throwOnFailure {t : Requirement} {m : Mismatch}
    (h : d.options.throwOnFailure = true) :
    (d.conclude registry value (.unmet t m)).result =
      .error (.failed ((Finding.unmet t m).report d.options value)) := by
  rw [conclude_unmet_eq_fail h]
  rfl

theorem conclude_unmet {t : Requirement} {m : Mismatch}
    (h : d.options.throwOnFailure = false) :
    d.conclude registry value (.unmet t m) =
      (d.settings.defaultFor registry ((Finding.unmet t m).report d.options value)) >>= fun j =>
        { (Finding.unmet t m).report d.options value with finalValue := j }.handOut := by
  rw [conclude]
  simp [Finding.report, h]

/-- A report on a finding; the final value is open where a value does not meet its
    requirement. -/
inductive Recorded (d : Draft) (value : Json) : Finding → Report → Prop where
  | bypassed : Recorded d value .bypassed (Finding.bypassed.report d.options value)
  | met (t) : Recorded d value (.met t) ((Finding.met t).report d.options value)
  | unmet (t m j) : Recorded d value (.unmet t m)
      { (Finding.unmet t m).report d.options value with finalValue := j }

/-- **A validation fails on the value iff it finds a mismatch and is to fail on it.** -/
theorem validate_eq_failed_iff {rep : Report} :
    (d.validate registry value).result = .error (.failed rep) ↔
      d.options.throwOnFailure = true ∧ ∃ t m, d.Finds registry value (.unmet t m) ∧
        rep = (Finding.unmet t m).report d.options value := by
  rw [validate, Logged.result_bind_eq_error_iff]
  constructor
  · rintro (h | ⟨finding, hfound, h⟩)
    · rcases examine_eq_error h with he | ⟨name, he⟩
      · cases he
      · cases he
    rw [examine_eq_ok_iff] at hfound
    cases finding with
    | bypassed => cases h
    | met t => cases h
    | unmet t m =>
      cases hthrow : d.options.throwOnFailure with
      | true =>
        rw [conclude_unmet_of_throwOnFailure hthrow] at h
        cases h
        exact ⟨rfl, t, m, hfound, rfl⟩
      | false =>
        rw [conclude_unmet hthrow] at h
        rcases Logged.result_bind_eq_error_iff.mp h with h | ⟨j, -, h⟩
        · cases Settings.isFailure_of_defaultFor h
        · cases h
  · rintro ⟨hthrow, t, m, hfinds, rfl⟩
    refine Or.inr ⟨.unmet t m, examine_eq_ok_iff.mpr hfinds, ?_⟩
    exact conclude_unmet_of_throwOnFailure hthrow

/-- **Each report that is handed out is the one on a finding**, with the default for a value that
    does not meet its requirement. -/
theorem validate_eq_report_iff {rep : Report} :
    (d.validate registry value).result = .ok (.report rep) ↔
      rep.options.returnFullResult = true ∧
        ∃ finding, d.Finds registry value finding ∧ d.Recorded value finding rep ∧
          (rep.mismatch? ≠ none → d.options.throwOnFailure = false ∧
            d.settings.DefaultsTo registry { rep with finalValue := .null } rep.finalValue) := by
  rw [validate, Logged.result_bind_eq_ok_iff]
  constructor
  · rintro ⟨finding, hfound, h⟩
    rw [examine_eq_ok_iff] at hfound
    cases finding with
    | bypassed =>
      obtain ⟨hfull, rfl⟩ := Report.handOut_eq_report_iff.mp h
      exact ⟨hfull, _, hfound, .bypassed, fun hm => absurd rfl hm⟩
    | met t =>
      obtain ⟨hfull, rfl⟩ := Report.handOut_eq_report_iff.mp h
      exact ⟨hfull, _, hfound, .met t, fun hm => absurd rfl hm⟩
    | unmet t m =>
      cases hthrow : d.options.throwOnFailure with
      | true =>
        rw [conclude_unmet_of_throwOnFailure hthrow] at h
        cases h
      | false =>
        rw [conclude_unmet hthrow] at h
        obtain ⟨j, hj, h⟩ := Logged.result_bind_eq_ok_iff.mp h
        obtain ⟨hfull, rfl⟩ := Report.handOut_eq_report_iff.mp h
        exact ⟨hfull, _, hfound, .unmet t m j,
          fun _ => ⟨rfl, Settings.defaultFor_eq_ok_iff.mp hj⟩⟩
  · rintro ⟨hfull, finding, hfinds, hrecorded, hmismatch⟩
    refine ⟨finding, examine_eq_ok_iff.mpr hfinds, ?_⟩
    cases hrecorded with
    | bypassed => exact Report.handOut_eq_report_iff.mpr ⟨hfull, rfl⟩
    | met t => exact Report.handOut_eq_report_iff.mpr ⟨hfull, rfl⟩
    | unmet t m j =>
      obtain ⟨hthrow, hdefault⟩ := hmismatch nofun
      rw [conclude_unmet hthrow]
      refine Logged.result_bind_eq_ok_iff.mpr ⟨j, Settings.defaultFor_eq_ok_iff.mpr hdefault, ?_⟩
      exact Report.handOut_eq_report_iff.mpr ⟨hfull, rfl⟩

end Draft

end Proviso
