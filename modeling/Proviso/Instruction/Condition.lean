/-
  Proviso/Instruction/Condition.lean
  ==================================
  **Conditions as written.**

  A name may carry any number of negations in front: `!`, `not` and `non`, each of which turns
  the condition into its opposite.  A single boolean argument is no argument: `true` asks for the
  check and `false` for its opposite, whatever was asked before.
-/
import Proviso.Instruction.Basic

namespace Proviso

/-- Takes the negations off the front of a name, turning `negate` for each. -/
def stripNegations : List Char → Bool → List Char × Bool
  | '!' :: rest, negate => stripNegations rest !negate
  | 'n' :: 'o' :: 't' :: rest, negate => stripNegations rest !negate
  | 'n' :: 'o' :: 'n' :: rest, negate => stripNegations rest !negate
  | name, negate => (name, negate)

/-- Taking negations off turns `negate` without looking at it. -/
theorem stripNegations_not (cs : List Char) (negate : Bool) :
    stripNegations cs (!negate) =
      ((stripNegations cs negate).1, !(stripNegations cs negate).2) := by
  fun_induction stripNegations cs negate with
  | case1 negate rest ih => exact ih
  | case2 negate rest ih => exact ih
  | case3 negate rest ih => exact ih
  | case4 cs negate h₁ h₂ h₃ => rw [stripNegations] <;> assumption

/-- The arguments of a condition and whether it is negated, after a single boolean argument has
    been read as assertion or negation. -/
def readArguments (args : List Json) (negate : Bool) : List Json × Bool :=
  match args with
  | [.bool asserted] => ([], !asserted)
  | _ => (args, negate)

/-- The condition with this name, arguments and negation as written. -/
def Condition.ofWritten (name : String) (args : List Json) (negate : Bool) : Condition :=
  let (args, negate) := readArguments args negate
  let (name, negate) := stripNegations name.toList negate
  ⟨String.ofList name, args, negate⟩

end Proviso
