/-
  Proviso/Proofs/Report/Consistent.lean
  =====================================
  **Reports agree with themselves and with the validation they are about.**

  A report is consistent if each of its fields is what the others, the draft and the value ask
  for.  Those are exactly the reports on findings (`consistent_iff`), so a validation hands out
  consistent reports and no others, as an outcome or as the error that it fails with
  (`validate_reports_iff`).
-/
import Proviso.Proofs.Report.Finding
import Proviso.Provider
import Proviso.Registry.Builtin

namespace Proviso

variable {registry : Registry} {d : Draft} {value : Json} {rep : Report}

/-- The fields of a report on a value and a draft agree.  Of the final value of a report on a
    mismatch nothing is said. -/
structure Report.Consistent (registry : Registry) (d : Draft) (value : Json) (rep : Report) :
    Prop where
  options_eq : rep.options = d.options
  initialValue_eq : rep.initialValue = value
  success_iff : rep.success = true ↔ rep.mismatch? = none
  finalValue_eq : rep.success = true → rep.finalValue = value
  failure_eq_bypassed_iff : rep.failure = some .bypassed ↔ d.Bypasses value
  requirement_eq_none_iff : rep.requirement = none ↔ d.Bypasses value
  verdict : ∀ t, rep.requirement = some t → d.Asks t ∧ 0 < t.countChecks ∧
    (t.evaluate registry value).result = .ok rep.success
  wording : ∀ m, rep.mismatch? = some m → (∃ t, rep.requirement = some t ∧
    t.describe registry = .ok m.expected) ∧ m.provided = value.describe true ∧
      rep.message? = some ("expected " ++ m.expected ++ " but " ++ m.provided ++ " was provided.")

namespace Report

theorem consistent_of_recorded {finding : Finding} (hfinds : d.Finds registry value finding)
    (hrecorded : d.Recorded value finding rep) : rep.Consistent registry d value := by
  cases hrecorded with
  | bypassed =>
    cases hfinds with
    | bypassed hpass =>
      have hnull : Json.null = value := hpass.2.symm
      exact {
        options_eq := rfl
        initialValue_eq := hnull
        success_iff := iff_of_true rfl rfl
        finalValue_eq := fun _ => hnull
        failure_eq_bypassed_iff := iff_of_true rfl hpass
        requirement_eq_none_iff := iff_of_true rfl hpass
        verdict := nofun
        wording := nofun }
  | met t =>
    cases hfinds with
    | met hpass hasks hverdict =>
      exact {
        options_eq := rfl
        initialValue_eq := rfl
        success_iff := iff_of_true rfl rfl
        finalValue_eq := fun _ => rfl
        failure_eq_bypassed_iff := iff_of_false nofun hpass
        requirement_eq_none_iff := iff_of_false nofun hpass
        verdict := by
          rintro _ ⟨⟩
          exact ⟨hasks, hasks.countChecks_pos, hverdict⟩
        wording := nofun }
  | unmet t m j =>
    cases hfinds with
    | unmet hpass hasks hverdict hwording =>
      exact {
        options_eq := rfl
        initialValue_eq := rfl
        success_iff := iff_of_false nofun nofun
        finalValue_eq := nofun
        failure_eq_bypassed_iff := iff_of_false nofun hpass
        requirement_eq_none_iff := iff_of_false nofun hpass
        verdict := by
          rintro _ ⟨⟩
          exact ⟨hasks, hasks.countChecks_pos, hverdict⟩
        wording := by
          rintro _ ⟨⟩
          exact ⟨⟨t, rfl, hwording⟩, rfl, rfl⟩ }

/-- **The consistent reports are those on findings.** -/
theorem consistent_iff : rep.Consistent registry d value ↔
    ∃ finding, d.Finds registry value finding ∧ d.Recorded value finding rep := by
  constructor
  · intro h
    obtain ⟨success, options, requirement, initialValue, failure, finalValue⟩ := rep
    obtain ⟨hoptions, hinitial, hsuccess, hfinal, hbypassed, hunheld, hverdict, hwording⟩ := h
    dsimp only at hoptions hinitial hsuccess hfinal hbypassed hunheld hverdict hwording
    subst hoptions hinitial
    cases requirement with
    | none =>
      have hpass : d.Bypasses initialValue := hunheld.mp rfl
      obtain rfl : failure = some .bypassed := hbypassed.mpr hpass
      obtain rfl : success = true := hsuccess.mpr rfl
      obtain rfl : finalValue = initialValue := hfinal rfl
      obtain rfl : finalValue = Json.null := hpass.2
      exact ⟨.bypassed, .bypassed hpass, .bypassed⟩
    | some t =>
      have hpass : ¬ d.Bypasses initialValue := mt hunheld.mpr nofun
      obtain ⟨hasks, -, hverdict⟩ := hverdict t rfl
      match failure with
      | some .bypassed => exact absurd (hbypassed.mp rfl) hpass
      | none =>
        obtain rfl : success = true := hsuccess.mpr rfl
        obtain rfl : finalValue = initialValue := hfinal rfl
        exact ⟨.met t, .met hpass hasks hverdict, .met t⟩
      | some (.mismatch ⟨expected, provided⟩) =>
        obtain rfl : success = false := Bool.eq_false_iff.mpr fun hs => nomatch hsuccess.mp hs
        obtain ⟨⟨_, ⟨⟩, hdescribe⟩, hprovided, -⟩ := hwording _ rfl
        obtain rfl : provided = initialValue.describe true := hprovided
        exact ⟨.unmet t _, .unmet hpass hasks hverdict hdescribe, .unmet t _ finalValue⟩
  · rintro ⟨finding, hfinds, hrecorded⟩
    exact consistent_of_recorded hfinds hrecorded

end Report

theorem Settings.default_eq_none_of_throwOnFailure {s : Settings}
    (h : s.resolve.throwOnFailure = true) : s.resolve.default = none := by
  rw [resolve, Bool.and_eq_true, Option.isNone_iff_eq_none] at h
  rw [resolve, h.1]
  rfl

namespace Draft

theorem validate_eq_failed_iff_consistent :
    (d.validate registry value).result = .error (.failed rep) ↔
      rep.Consistent registry d value ∧ rep.mismatch? ≠ none ∧
        d.options.throwOnFailure = true ∧ d.options.default = none ∧ rep.finalValue = .null := by
  rw [validate_eq_failed_iff]
  constructor
  · rintro ⟨hthrow, t, m, hfinds, rfl⟩
    refine ⟨?_, nofun, hthrow, Settings.default_eq_none_of_throwOnFailure hthrow, rfl⟩
    exact Report.consistent_of_recorded hfinds (.unmet t m .null)
  · rintro ⟨hconsistent, hmismatch, hthrow, -, hfinal⟩
    obtain ⟨finding, hfinds, hrecorded⟩ := Report.consistent_iff.mp hconsistent
    cases hrecorded with
    | bypassed => exact absurd rfl hmismatch
    | met t => exact absurd rfl hmismatch
    | unmet t m j =>
      obtain rfl : j = .null := hfinal
      exact ⟨hthrow, t, m, hfinds, rfl⟩

theorem validate_eq_report_iff_consistent :
    (d.validate registry value).result = .ok (.report rep) ↔
      rep.Consistent registry d value ∧ d.options.returnFullResult = true ∧
        (rep.mismatch? ≠ none → d.options.throwOnFailure = false ∧
          d.settings.DefaultsTo registry { rep with finalValue := .null } rep.finalValue) := by
  rw [validate_eq_report_iff]
  constructor
  · rintro ⟨hfull, finding, hfinds, hrecorded, hdefault⟩
    have hconsistent := Report.consistent_of_recorded hfinds hrecorded
    exact ⟨hconsistent, hconsistent.options_eq ▸ hfull, hdefault⟩
  · rintro ⟨hconsistent, hfull, hdefault⟩
    obtain ⟨finding, hfinds, hrecorded⟩ := Report.consistent_iff.mp hconsistent
    exact ⟨hconsistent.options_eq.symm ▸ hfull, finding, hfinds, hrecorded, hdefault⟩

/-- **Reports are consistent.**  A validation fails on the value iff it finds a mismatch and is to
    fail on it.  The reports it fails with are the consistent ones on a mismatch, where nothing
    takes the place of the value; the reports it hands out are the consistent ones, where the
    default takes the place of a value that does not meet its requirement. -/
theorem validate_reports_iff (registry : Registry) (d : Draft) (value : Json) :
    ((∃ rep, (d.validate registry value).result = .error (.failed rep)) ↔
      (∃ t m, d.Finds registry value (.unmet t m)) ∧ d.options.throwOnFailure = true) ∧
    ∀ rep : Report,
      ((d.validate registry value).result = .error (.failed rep) ↔
        rep.Consistent registry d value ∧ rep.mismatch? ≠ none ∧
          d.options.throwOnFailure = true ∧ d.options.default = none ∧
          rep.finalValue = .null) ∧
      ((d.validate registry value).result = .ok (.report rep) ↔
        rep.Consistent registry d value ∧ d.options.returnFullResult = true ∧
          (rep.mismatch? ≠ none → d.options.throwOnFailure = false ∧
            d.settings.DefaultsTo registry { rep with finalValue := .null } rep.finalValue)) := by
  refine ⟨?_, fun rep => ⟨validate_eq_failed_iff_consistent, validate_eq_report_iff_consistent⟩⟩
  constructor
  · rintro ⟨rep, h⟩
    obtain ⟨hthrow, t, m, hfinds, -⟩ := validate_eq_failed_iff.mp h
    exact ⟨⟨t, m, hfinds⟩, hthrow⟩
  · rintro ⟨⟨t, m, hfinds⟩, hthrow⟩
    exact ⟨_, validate_eq_failed_iff.mpr ⟨hthrow, t, m, hfinds, rfl⟩⟩

/-- A draft that asks for a report, with the message in place of a value that fails. -/
def reportingDraft : Draft :=
  ((ofJson (.obj [("isInteger", .bool true)])).defaultWith Provider.message).returnFullResult true

def textReport : Report where
  success := false
  options := {
    throwOnFailure := false
    default := some .computed
    returnFullResult := true }
  requirement := some ⟨.all, [.check ⟨"isInteger", [], false⟩]⟩
  initialValue := .str "x"
  failure := some (.mismatch ⟨"an integer", "a string (\"x\")"⟩)
  finalValue := .str "expected an integer but a string (\"x\") was provided."

theorem validate_reports_iff_textReport :
    (reportingDraft.validate .builtin (.str "x")).result = .ok (.report textReport) ∧
      textReport.Consistent .builtin reportingDraft (.str "x") ∧ textReport.mismatch? ≠ none ∧
      reportingDraft.settings.DefaultsTo .builtin { textReport with finalValue := .null }
        textReport.finalValue := by
  have hresult : (reportingDraft.validate .builtin (.str "x")).result =
      .ok (.report textReport) := by with_unfolding_all rfl
  have hmismatch : textReport.mismatch? ≠ none := Option.some_ne_none _
  obtain ⟨-, hreports⟩ := validate_reports_iff .builtin reportingDraft (.str "x")
  obtain ⟨hconsistent, -, hdefault⟩ := (hreports textReport).2.mp hresult
  exact ⟨hresult, hconsistent, hmismatch, (hdefault hmismatch).2⟩

end Draft

end Proviso
