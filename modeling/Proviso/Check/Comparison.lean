/-
  Proviso/Check/Comparison.lean
  =============================
  **Checks that compare** a value with their arguments.  Numbers compare by magnitude.
-/
import Proviso.Check.Basic

namespace Proviso.Check

/-- Passes for values equal to the first argument, which is `null` if missing. -/
def equals : Check :=
  plain (fun value args => value.agrees (args.head?.getD .null)) fun args =>
    "equal to " ++ firstText args

/-- The candidates: the items of a single list argument, and the arguments themselves
    otherwise. -/
def candidates (args : List Json) : List Json :=
  match args with
  | [.arr items] => items
  | _ => args

/-- Passes for values equal to one of the candidates. -/
def oneOf : Check :=
  plain (fun value args => (candidates args).any value.agrees) fun args =>
    "one of [" ++ ", ".intercalate ((candidates args).map Json.text) ++ "]"

/-- The order of a value and the first argument, if both are numbers. -/
def orderAgainstBound? (value : Json) (args : List Json) : Option Ordering := do
  (← value.number?).compare? (← (← args.head?).number?)

/-- Passes for numbers that are at least the first argument. -/
def min : Check :=
  plain (fun value args => (orderAgainstBound? value args).any Ordering.isGE) fun args =>
    "a number of at least " ++ firstText args

/-- Passes for numbers that are at most the first argument. -/
def max : Check :=
  plain (fun value args => (orderAgainstBound? value args).any Ordering.isLE) fun args =>
    "a number of at most " ++ firstText args

end Proviso.Check
