/-
  Proviso/Instruction/Verdict.lean
  ================================
  **Evaluating instructions.**

  A group looks at its children from left to right and stops at the first verdict that decides
  it.  Checks behind that one are neither looked up nor evaluated.
-/
import Proviso.Registry.Basic

namespace Proviso

/-- The verdict on one condition. -/
def Condition.evaluate (registry : Registry) (value : Json) (c : Condition) :
    Logged Error Bool := do
  let check ← Logged.ofExcept (registry.find c.name)
  let passed := (← check.evaluate value c.args) != c.negate
  Logged.emit [.evaluated c passed]
  return passed

/-- A check that is found leaves its remarks and then the verdict on the condition. -/
theorem Condition.evaluate_of_find {registry : Registry} {value : Json} {c : Condition}
    {check : Check} (h : registry.find c.name = .ok check) : c.evaluate registry value =
      ⟨(check.remarks value c.args).map .remarked ++
        [.evaluated c (check.passes value c.args != c.negate)],
        .ok (check.passes value c.args != c.negate)⟩ := by
  rw [evaluate, h]
  show (⟨[] ++ ((check.remarks value c.args).map Event.remarked ++ [] ++
    ([.evaluated c (check.passes value c.args != c.negate)] ++ [])),
    .ok (check.passes value c.args != c.negate)⟩ : Logged Error Bool) = _
  simp only [List.nil_append, List.append_nil]

/-- The verdict on a condition is that of the check under its name, turned if the opposite is asked
    for. -/
theorem Condition.result_evaluate {registry : Registry} {value : Json} (c : Condition) :
    (c.evaluate registry value).result =
      registry.find c.name >>= fun check => .ok (check.passes value c.args != c.negate) := by
  cases h : registry.find c.name with
  | error e =>
    rw [evaluate, h]
    rfl
  | ok check =>
    rw [evaluate_of_find h]
    rfl

namespace Instruction

/-- The verdict on a value, with room for this many levels. -/
def evaluateWithin (registry : Registry) (value : Json) : (room : Nat) → Instruction →
    Logged Error Bool
  | 0, _ => .fail .tooDeep
  | _ + 1, .check c => c.evaluate registry value
  | room + 1, .group k cs => Logged.untilOther k.neutral (evaluateWithin registry value room) cs

def evaluate (registry : Registry) (t : Instruction) (value : Json) : Logged Error Bool :=
  t.evaluateWithin registry value maxDepth

end Instruction

def Requirement.evaluate (registry : Registry) (r : Requirement) (value : Json) :
    Logged Error Bool :=
  r.root.evaluate registry value

end Proviso
