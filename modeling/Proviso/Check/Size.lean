/-
  Proviso/Check/Size.lean
  =======================
  **Checks for the size** of a text, list or object.  The bound is a natural number written
  without fraction; with any other argument nothing passes.
-/
import Proviso.Check.Basic

namespace Proviso.Check

/-- The bound: the first argument, if it is a natural number. -/
def sizeBound? (args : List Json) : Option Nat := do (← (← args.head?).number?).toNat?

/-- Whether size and bound exist and compare as asked. -/
def sizeBy (test : Nat → Nat → Bool) (value : Json) (args : List Json) : Bool :=
  match value.size?, sizeBound? args with
  | some size, some bound => test size bound
  | _, _ => false

/-- Passes for values whose size is at least the first argument. -/
def minLength : Check :=
  plain (sizeBy fun size bound => bound ≤ size) fun args =>
    "a value of length at least " ++ firstText args

/-- Passes for values whose size is at most the first argument. -/
def maxLength : Check :=
  plain (sizeBy fun size bound => size ≤ bound) fun args =>
    "a value of length at most " ++ firstText args

end Proviso.Check
