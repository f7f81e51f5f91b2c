/-
  Proviso/Check/Basic.lean
  ========================
  **Checks**: named predicates on a value, with the words for what they expect.

  A check answers for its positive form only; that a condition asks for the opposite is the
  evaluator's business.
-/
import Proviso.Logged

namespace Proviso

/-- A predicate on a value under arguments. -/
structure Check where
  /-- Whether the value passes. -/
  passes (value : Json) (args : List Json) : Bool
  /-- What the check, or its opposite, expects of a value. -/
  wording (negate : Bool) (args : List Json) : String
  /-- What an evaluation leaves in the log. -/
  remarks (value : Json) (args : List Json) : List Remark := []

namespace Check

/-- The opposite of an expectation. -/
def negated (text : String) (negate : Bool) : String := if negate then "not " ++ text else text

/-- A check whose opposite is worded with `not`. -/
def plain (passes : Json → List Json → Bool) (text : List Json → String) : Check where
  passes := passes
  wording negate args := negated (text args) negate

def evaluate {ε : Type} (check : Check) (value : Json) (args : List Json) : Logged ε Bool := do
  Logged.emit ((check.remarks value args).map .remarked)
  return check.passes value args

/-- The first argument in writing, and `null` if there is none. -/
def firstText (args : List Json) : String := (args.head?.getD .null).text

end Check

end Proviso
