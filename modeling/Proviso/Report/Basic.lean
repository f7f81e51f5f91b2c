/-
  Proviso/Report/Basic.lean
  =========================
  **Outcomes of a validation**: the options in effect, what went wrong, and the full report.

  A report holds no functions.  Of a default that is computed it says only that it is.
-/
import Proviso.Instruction.Basic
import Proviso.Json.Basic

namespace Proviso

/-! ### Options in effect -/

/-- What a report says of the default for a failed validation. -/
inductive DefaultNote where
  | value (j : Json)
  | computed
  deriving Repr

/-- The options in effect for one validation. -/
structure Options where
  /-- Fail instead of handing out a default. -/
  throwOnFailure : Bool := true
  /-- An absent value passes without a look at any condition. -/
  allowAbsent : Bool := false
  /-- What is handed out in place of a value that fails. -/
  default : Option DefaultNote := none
  /-- Hand out the report instead of the final value. -/
  returnFullResult : Bool := false
  /-- Log the outcome. -/
  debug : Bool := false
  deriving Repr

/-! ### What went wrong -/

/-- What was expected and what was provided, in words. -/
structure Mismatch where
  expected : String
  provided : String
  deriving DecidableEq, Repr

def Mismatch.message (m : Mismatch) : String :=
  "expected " ++ m.expected ++ " but " ++ m.provided ++ " was provided."

/-- Why a validation did not simply pass. -/
inductive Failure where
  /-- The value was absent, and allowed to be. -/
  | bypassed
  /-- The value does not meet the instruction. -/
  | mismatch (m : Mismatch)
  deriving DecidableEq, Repr

/-! ### Reports -/

/-- The record of one validation. -/
structure Report where
  success : Bool
  options : Options
  /-- The requirement the value was held against; none if it was not. -/
  requirement : Option Requirement
  initialValue : Json
  /-- None if the value met the requirement. -/
  failure : Option Failure
  /-- The value handed out. -/
  finalValue : Json
  deriving Repr

namespace Report

def mismatch? (r : Report) : Option Mismatch :=
  match r.failure with
  | some (.mismatch m) => some m
  | _ => none

/-- The message of a failed validation. -/
def message? (r : Report) : Option String := r.mismatch?.map Mismatch.message

/-- Whether the value was absent, and allowed to be. -/
def isBypassed (r : Report) : Bool := r.failure == some .bypassed

end Report

/-- What a validation hands out: the final value, or the whole report. -/
inductive Outcome where
  | value (j : Json)
  | report (r : Report)
  deriving Repr

/-- The final value, whichever form it has. -/
def Outcome.finalValue : Outcome → Json
  | .value j => j
  | .report r => r.finalValue

end Proviso
