/-
  Proviso/Check/Arithmetic.lean
  =============================
  **Checks on whole numbers**, which a registry holds only if they are registered.  A number
  counts as whole here if it is written without fraction and fits a signed 64-bit word.
-/
import Proviso.Check.Basic

namespace Proviso.Check

/-- The whole number that a value is. -/
def signed? (value : Json) : Option Int := do (← value.number?).toSigned?

/-- Passes for even whole numbers. -/
def even : Check :=
  plain (fun value _ => (signed? value).any (· % 2 == 0)) fun _ => "an even integer"

/-- Passes for whole numbers that the first argument divides, where it is not zero and the
    quotient fits a signed word. -/
def divisible : Check :=
  plain (fun value args => match signed? value, args.head? >>= signed? with
    | some n, some d => d != 0 && n.tdiv d < 0x8000000000000000 && n.tmod d == 0
    | _, _ => false) fun args => "divisible by " ++ firstText args

end Proviso.Check
