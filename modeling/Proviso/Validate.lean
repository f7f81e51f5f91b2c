/-
  Proviso/Validate.lean
  =====================
  **Validating a value against a draft**, in two steps.

  `examine` finds out how value and draft stand to each other and looks at no option but the one
  that lets absent values pass.  `conclude` turns that finding into what is handed out: the
  value, a default, a report or an error.
-/
import Proviso.Draft.Extract
import Proviso.Draft.Normalize
import Proviso.Instruction.Wording
import Proviso.Json.Description

namespace Proviso

/-- How a value stands to a draft. -/
inductive Finding where
  /-- The value is absent, and may be. -/
  | bypassed
  /-- The value meets the requirement. -/
  | met (r : Requirement)
  /-- The value does not meet the requirement. -/
  | unmet (r : Requirement) (m : Mismatch)
  deriving Repr

namespace Finding

/-- The report on a finding, before a default is handed out. -/
def report (options : Options) (value : Json) : Finding → Report
  | .bypassed => ⟨true, options, none, .null, some .bypassed, .null⟩
  | .met r => ⟨true, options, some r, value, none, value⟩
  | .unmet r m => ⟨false, options, some r, value, some (.mismatch m), .null⟩

end Finding

/-- The requirement a draft stands for: the one it spells, or that the value is present if it
    spells no condition. -/
def Draft.requirement (d : Draft) : Logged Error Requirement := do
  let r ← d.normalize
  return if r.hasChecks then r else .present

/-- How a value stands to a draft. -/
def Draft.examine (registry : Registry) (d : Draft) (value : Json) : Logged Error Finding := do
  if d.options.allowAbsent && value.isNull then
    Logged.emit [.absenceAllowed]
    return .bypassed
  else
    let r ← d.requirement
    if ← r.evaluate registry value then return .met r
    else
      let expected ← Logged.ofExcept (r.describe registry)
      let m : Mismatch := ⟨expected, value.describe true⟩
      Logged.emit [.mismatched m.message]
      return .unmet r m

namespace Report

/-- Logs the outcome, if that is asked for. -/
def logOutcome (r : Report) : Logged Error Unit :=
  Logged.emit (if r.options.debug then
    [.concluded r.success r.isBypassed r.initialValue r.finalValue r.message?] else [])

/-- Hands out the final value or the report, as asked for. -/
def handOut (r : Report) : Logged Error Outcome := do
  r.logOutcome
  return if r.options.returnFullResult then .report r else .value r.finalValue

end Report

/-- The default for a failed validation; `null` if there is none. -/
def Settings.defaultFor (s : Settings) (registry : Registry) (r : Report) : Logged Error Json :=
  match s.default with
  | none => pure .null
  | some (.value j) => pure j
  | some (.computed provider) => (provider r registry).mapError .defaultValue

/-- What is handed out for a finding. -/
def Draft.conclude (registry : Registry) (d : Draft) (value : Json) (finding : Finding) :
    Logged Error Outcome := do
  let report := finding.report d.options value
  if report.success then report.handOut
  else if report.options.throwOnFailure then
    report.logOutcome
    Logged.fail (.failed report)
  else
    let final ← d.settings.defaultFor registry report
    { report with finalValue := final }.handOut

/-- Validates a value against a draft. -/
def Draft.validate (registry : Registry) (d : Draft) (value : Json) : Logged Error Outcome := do
  d.conclude registry value (← d.examine registry value)

/-- Describes what a draft expects. -/
def Draft.describe (registry : Registry) (d : Draft) : Logged Error String := do
  Logged.ofExcept ((← d.normalize).describe registry)

end Proviso
