/-
  Proviso/Proofs/Report/Surface.lean
  ==================================
  **What a finding surfaces as, and what options have to do with it.**

  Examining a value looks at one option, the one that lets absent values pass, and reads the rest
  of the draft without its options (`examine_eq_of_sameButOptions`).  All other options come into
  play after that: they decide whether a mismatch surfaces as an error, as a default or as the
  error of a provider that computes none, and whether a report is handed out (`Surfaces`).

  So drafts that differ in their options alone agree on every value (`validate_agrees`).
-/
import Proviso.Proofs.Draft.Strip
import Proviso.Proofs.Report.Finding
import Proviso.Registry.Builtin

namespace Proviso

/-! ### Outcomes -/

/-- A report in the form its options ask for. -/
def Report.outcome (rep : Report) : Outcome :=
  if rep.options.returnFullResult then .report rep else .value rep.finalValue

theorem Report.finalValue_outcome (rep : Report) : rep.outcome.finalValue = rep.finalValue := by
  unfold outcome
  split
  · rfl
  · rfl

namespace Draft

variable {registry : Registry} {d d' : Draft} {value : Json}

/-- What a finding surfaces as: a report, a report with a default, or an error. -/
inductive Surfaces (registry : Registry) (d : Draft) (value : Json) :
    Finding → Except Error Outcome → Prop where
  | bypassed :
      Surfaces registry d value .bypassed (.ok (Finding.bypassed.report d.options value).outcome)
  | met (t) :
      Surfaces registry d value (.met t) (.ok ((Finding.met t).report d.options value).outcome)
  | failed {t m} (hthrow : d.options.throwOnFailure = true) :
      Surfaces registry d value (.unmet t m)
        (.error (.failed ((Finding.unmet t m).report d.options value)))
  | defaulted {t m j} (hthrow : d.options.throwOnFailure = false)
      (hj : d.settings.DefaultsTo registry ((Finding.unmet t m).report d.options value) j) :
      Surfaces registry d value (.unmet t m)
        (.ok { (Finding.unmet t m).report d.options value with finalValue := j }.outcome)
  | refused {t m provider text} (hdefault : d.settings.default = some (.computed provider))
      (htext : (provider ((Finding.unmet t m).report d.options value) registry).result =
        .error text) :
      Surfaces registry d value (.unmet t m) (.error (.defaultValue text))

theorem surfaces_conclude (finding : Finding) :
    d.Surfaces registry value finding (d.conclude registry value finding).result := by
  cases finding with
  | bypassed => exact .bypassed
  | met t => exact .met t
  | unmet t m =>
    cases hthrow : d.options.throwOnFailure with
    | true =>
      rw [conclude_unmet_of_throwOnFailure hthrow]
      exact .failed hthrow
    | false =>
      rw [conclude_unmet hthrow, Logged.result_bind]
      cases hdefault : (d.settings.defaultFor registry
          ((Finding.unmet t m).report d.options value)).result with
      | ok j => exact .defaulted hthrow (Settings.defaultFor_eq_ok_iff.mp hdefault)
      | error e =>
        obtain ⟨provider, text, hprovider, htext, rfl⟩ := Settings.defaultFor_eq_error hdefault
        exact .refused hprovider htext

theorem result_validate_of_finds {finding : Finding} (h : d.Finds registry value finding) :
    (d.validate registry value).result = (d.conclude registry value finding).result := by
  rw [validate, Logged.result_bind, examine_eq_ok_iff.mpr h]
  rfl

theorem surfaces_validate {finding : Finding} (h : d.Finds registry value finding) :
    d.Surfaces registry value finding (d.validate registry value).result := by
  rw [result_validate_of_finds h]
  exact surfaces_conclude finding

/-- A validation ends with this final value, whichever form was asked for. -/
def HandsOut (registry : Registry) (d : Draft) (value final : Json) : Prop :=
  ∃ o, (d.validate registry value).result = .ok o ∧ o.finalValue = final

theorem handsOut_of_finds_bypassed (h : d.Finds registry value .bypassed) :
    d.HandsOut registry value value := by
  have hsurface := surfaces_validate h
  generalize hresult : (d.validate registry value).result = x at hsurface
  cases hsurface with
  | bypassed =>
    cases h with
    | bypassed hpass => exact ⟨_, hresult, (Report.finalValue_outcome _).trans hpass.2.symm⟩

theorem validate_of_finds_met {t : Requirement} (h : d.Finds registry value (.met t)) :
    (d.validate registry value).result = .ok ((Finding.met t).report d.options value).outcome := by
  have hsurface := surfaces_validate h
  generalize (d.validate registry value).result = x at hsurface
  cases hsurface with
  | met => rfl

theorem handsOut_of_finds_met {t : Requirement} (h : d.Finds registry value (.met t)) :
    d.HandsOut registry value value :=
  ⟨_, validate_of_finds_met h, Report.finalValue_outcome _⟩

/-! ### Drafts that differ in their options -/

/-- Two drafts that are the same without their options, and let absent values pass alike. -/
structure SameButOptions (d d' : Draft) : Prop where
  strip_eq : d.strip = d'.strip
  allowAbsent_eq : d.options.allowAbsent = d'.options.allowAbsent

theorem normalize_eq_of_sameButOptions (h : d.SameButOptions d') :
    d.normalize = d'.normalize := by
  rw [← normalize_strip d, h.strip_eq, normalize_strip]

/-- Examining looks at no option but the one that lets absent values pass. -/
theorem examine_eq_of_sameButOptions (h : d.SameButOptions d') :
    d.examine registry value = d'.examine registry value := by
  simp only [examine, requirement, h.allowAbsent_eq, normalize_eq_of_sameButOptions h]

theorem finds_iff_of_sameButOptions (h : d.SameButOptions d') {finding : Finding} :
    d.Finds registry value finding ↔ d'.Finds registry value finding := by
  rw [← examine_eq_ok_iff, ← examine_eq_ok_iff, examine_eq_of_sameButOptions h]

end Draft

/-! ### What options leave alone -/

/-- The error, without the options that the report of a failed validation shows. -/
def Error.withoutOptions : Error → Error
  | .failed rep => .failed { rep with options := {} }
  | e => e

theorem Error.message_withoutOptions (e : Error) : e.withoutOptions.message = e.message := by
  cases e with
  | failed rep => rfl
  | _ => rfl

/-- What a validation ends with, whichever form was asked for: the final value, or the error. -/
def ending : Except Error Outcome → Except Error Json
  | .ok o => .ok o.finalValue
  | .error e => .error e.withoutOptions

theorem message_eq_of_ending_eq {x y : Except Error Outcome} (h : ending x = ending y) :
    (error? x).map Error.message = (error? y).map Error.message := by
  cases x with
  | ok o =>
    cases y with
    | ok o' => rfl
    | error e' => cases h
  | error e =>
    cases y with
    | ok o' => cases h
    | error e' =>
      have hsame : e.withoutOptions = e'.withoutOptions := Except.error.inj h
      have hmessage : e.message = e'.message := by
        rw [← e.message_withoutOptions, hsame, e'.message_withoutOptions]
      simp [hmessage]

/-- A default that is not computed does not depend on the report. -/
theorem Settings.DefaultsTo.unique {s s' : Settings} {registry : Registry} {rep rep' : Report}
    {j j' : Json} (hplain : ∀ provider, s.default ≠ some (.computed provider))
    (hsame : s.default = s'.default) (h : s.DefaultsTo registry rep j)
    (h' : s'.DefaultsTo registry rep' j') : j = j' := by
  unfold DefaultsTo at h h'
  rw [← hsame] at h'
  cases hdefault : s.default with
  | none =>
    rw [hdefault] at h h'
    rw [h, h']
  | some default =>
    cases default with
    | value given =>
      rw [hdefault] at h h'
      rw [h, h']
    | computed provider => exact absurd hdefault (hplain provider)

namespace Draft

variable {registry : Registry} {d d' : Draft} {value : Json}

/-- A finding surfaces alike where defaults and failing are asked for alike. -/
theorem ending_eq_of_surfaces (hthrow : d.options.throwOnFailure = d'.options.throwOnFailure)
    (hsame : d.settings.default = d'.settings.default)
    (hplain : ∀ provider, d.settings.default ≠ some (.computed provider)) {finding : Finding}
    {x y : Except Error Outcome} (hx : d.Surfaces registry value finding x)
    (hy : d'.Surfaces registry value finding y) : ending x = ending y := by
  have houtcome : ∀ rep rep' : Report, rep.finalValue = rep'.finalValue →
      ending (.ok rep.outcome) = ending (.ok rep'.outcome) := by
    intro rep rep' hfinal
    rw [ending, ending, Report.finalValue_outcome, Report.finalValue_outcome, hfinal]
  cases hx with
  | bypassed =>
    cases hy with
    | bypassed => exact houtcome _ _ rfl
  | met t =>
    cases hy with
    | met => exact houtcome _ _ rfl
  | failed hfail =>
    cases hy with
    | failed => rfl
    | defaulted hnot =>
      rw [← hthrow, hfail] at hnot
      cases hnot
    | refused hcomputed => exact absurd (hsame.trans hcomputed) (hplain _)
  | defaulted hnot hj =>
    cases hy with
    | failed hfail =>
      rw [← hthrow, hnot] at hfail
      cases hfail
    | defaulted _ hj' => exact houtcome _ _ (hj.unique hplain hsame hj')
    | refused hcomputed => exact absurd (hsame.trans hcomputed) (hplain _)
  | refused hcomputed => exact absurd hcomputed (hplain _)

/-- **Options never change the verdict.**  Two drafts that differ in their options alone, and let
    absent values pass alike, agree on every value: both are bypassed, or the value meets the same
    requirement, and is handed out itself; or it does not meet it, with the same mismatch; or both
    fail with the same error of reading or looking up.  Where they ask for a default and for
    failing alike, and the default is not computed, they end alike as well. -/
theorem validate_agrees (registry : Registry) (value : Json) (h : d.SameButOptions d') :
    (((d.Bypasses value ∧ d'.Bypasses value ∨
        ∃ t, d.Finds registry value (.met t) ∧ d'.Finds registry value (.met t)) ∧
          d.HandsOut registry value value ∧ d'.HandsOut registry value value) ∨
      (∃ t m, d.Finds registry value (.unmet t m) ∧ d'.Finds registry value (.unmet t m) ∧
        d.Surfaces registry value (.unmet t m) (d.validate registry value).result ∧
        d'.Surfaces registry value (.unmet t m) (d'.validate registry value).result) ∨
      ∃ e : Error, (e.isStructural = true ∨ ∃ name, e = .unknownCheck name) ∧
        (d.validate registry value).result = .error e ∧
        (d'.validate registry value).result = .error e) ∧
    (d.options.throwOnFailure = d'.options.throwOnFailure →
      d.settings.default = d'.settings.default →
      (∀ provider, d.settings.default ≠ some (.computed provider)) →
        ending (d.validate registry value).result = ending (d'.validate registry value).result ∧
        (error? (d.validate registry value).result).map Error.message =
          (error? (d'.validate registry value).result).map Error.message) := by
  have hexamine : d.examine registry value = d'.examine registry value :=
    examine_eq_of_sameButOptions h
  cases hfound : (d.examine registry value).result with
  | ok finding =>
    have hfinds : d.Finds registry value finding := examine_eq_ok_iff.mp hfound
    have hfinds' : d'.Finds registry value finding := (finds_iff_of_sameButOptions h).mp hfinds
    have hx := surfaces_validate hfinds
    have hy := surfaces_validate hfinds'
    constructor
    · cases finding with
      | bypassed =>
        have hout := handsOut_of_finds_bypassed hfinds
        have hout' := handsOut_of_finds_bypassed hfinds'
        cases hfinds with
        | bypassed hpass =>
          cases hfinds' with
          | bypassed hpass' => exact Or.inl ⟨Or.inl ⟨hpass, hpass'⟩, hout, hout'⟩
      | met t =>
        exact Or.inl ⟨Or.inr ⟨t, hfinds, hfinds'⟩, handsOut_of_finds_met hfinds,
          handsOut_of_finds_met hfinds'⟩
      | unmet t m => exact Or.inr (Or.inl ⟨t, m, hfinds, hfinds', hx, hy⟩)
    · intro hthrow hsame hplain
      have hending := ending_eq_of_surfaces hthrow hsame hplain hx hy
      exact ⟨hending, message_eq_of_ending_eq hending⟩
  | error e =>
    have hx : (d.validate registry value).result = .error e :=
      Logged.result_bind_eq_error_iff.mpr (Or.inl hfound)
    have hy : (d'.validate registry value).result = .error e :=
      Logged.result_bind_eq_error_iff.mpr (Or.inl (hexamine ▸ hfound))
    refine ⟨Or.inr (Or.inr ⟨e, examine_eq_error hfound, hx, hy⟩), ?_⟩
    intro _ _ _
    rw [hx, hy]
    exact ⟨rfl, rfl⟩

/-- A demand for an integer that fails on other values. -/
def strictDraft : Draft := ofJson (.obj [("debug", .bool true), ("isInteger", .bool true)])

/-- The same demand with a default, in a key. -/
def lenientDraft : Draft :=
  ofJson (.obj [("default_value", .ofWhole { val := 7 }), ("isInteger", .bool true),
    ("throw_on_failure", .bool false)])

/-- The same demand with the same default, set from outside, and with a report. -/
def reportedDraft : Draft :=
  ((strictDraft.defaultValue (.ofWhole { val := 7 })).returnFullResult true).debug false

theorem validate_agrees_strictDraft :
    strictDraft.SameButOptions lenientDraft ∧ lenientDraft.SameButOptions reportedDraft ∧
      (∃ t m, strictDraft.Finds .builtin (.str "x") (.unmet t m) ∧
        lenientDraft.Finds .builtin (.str "x") (.unmet t m)) ∧
      lenientDraft.options.throwOnFailure = reportedDraft.options.throwOnFailure ∧
      lenientDraft.settings.default = reportedDraft.settings.default ∧
      (∀ provider, lenientDraft.settings.default ≠ some (.computed provider)) ∧
      ending (reportedDraft.validate .builtin (.str "x")).result = .ok (.ofWhole { val := 7 }) := by
  have hstrict : strictDraft.SameButOptions lenientDraft := ⟨rfl, rfl⟩
  have hreported : lenientDraft.SameButOptions reportedDraft := ⟨rfl, rfl⟩
  have hfailed : ∃ rep, (strictDraft.validate .builtin (.str "x")).result =
      .error (.failed rep) := ⟨_, by with_unfolding_all rfl⟩
  have hlenient : (lenientDraft.validate .builtin (.str "x")).result =
      .ok (.value (.ofWhole { val := 7 })) := by with_unfolding_all rfl
  have hplain : ∀ provider, lenientDraft.settings.default ≠ some (.computed provider) := by
    intro provider h
    cases h
  refine ⟨hstrict, hreported, ?_, rfl, rfl, hplain, ?_⟩
  · obtain ⟨rep, hrep⟩ := hfailed
    rcases (validate_agrees .builtin (.str "x") hstrict).1 with
      ⟨-, ⟨o, hout, -⟩, -⟩ | ⟨t, m, h, h', -, -⟩ | ⟨e, he, herror, -⟩
    · rw [hrep] at hout
      cases hout
    · exact ⟨t, m, h, h'⟩
    · rw [hrep] at herror
      cases herror
      rcases he with he | ⟨name, he⟩
      · cases he
      · cases he
  · rw [← ((validate_agrees .builtin (.str "x") hreported).2 rfl rfl hplain).1, hlenient]
    rfl

end Draft

end Proviso
