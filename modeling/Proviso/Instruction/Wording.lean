/-
  Proviso/Instruction/Wording.lean
  ================================
  **Instructions in words**, as the "expected" half of a failure message.

  A single expectation stands as it is.  Alternatives read as a sentence at the root and as
  symbols below it; joint expectations always read as symbols.  Whatever has more than one part
  stands in parentheses, alternatives at the root excepted, and so does every `all` group below
  the root.
-/
import Proviso.Instruction.Flatten
import Proviso.Instruction.Verdict

namespace Proviso

def parenthesized (text : String) : String := "(" ++ text ++ ")"

/-- Alternatives as a sentence or as symbols. -/
def alternatives (place : Place) : List String → String
  | [] => ""
  | [only] => only
  | [first, second] =>
    let text := first ++ " or " ++ second
    match place with
    | .root => text
    | .nested => parenthesized text
  | parts =>
    match place with
    | .root => ", ".intercalate parts.dropLast ++ ", or " ++ parts.getLast?.getD ""
    | .nested => parenthesized (" || ".intercalate parts)

/-- Joint expectations. -/
def jointly (place : Place) : List String → String
  | [] => ""
  | parts =>
    let text := " && ".intercalate parts
    if place = .nested ∨ 1 < parts.length then parenthesized text else text

/-- The parts of a group, joined as its connective asks. -/
def Connective.join : Connective → Place → List String → String
  | .any => alternatives
  | .all => jointly

/-- What a condition expects. -/
def Condition.describe (registry : Registry) (c : Condition) : Except Error String := do
  return (← registry.find c.name).wording c.negate c.args

namespace Instruction

/-- What an instruction expects, with room for this many levels. -/
def describeWithin (registry : Registry) : (room : Nat) → Place → Instruction →
    Except Error String
  | 0, _, _ => .error .tooDeep
  | _ + 1, _, .check c => c.describe registry
  | room + 1, place, .group k cs => do
    return k.join place (← cs.mapM (describeWithin registry room .nested))

end Instruction

def Requirement.describe (registry : Registry) (r : Requirement) : Except Error String :=
  r.root.describeWithin registry maxDepth .root

end Proviso
