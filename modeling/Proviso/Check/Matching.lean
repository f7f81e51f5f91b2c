/-
  Proviso/Check/Matching.lean
  ===========================
  **The check for patterns.**  A text passes if the pattern occurs in it; a pattern that does not
  compile occurs nowhere, and evaluating one leaves a warning.  The engine is a parameter.
-/
import Proviso.Check.Basic
import Proviso.Pattern.Compile

namespace Proviso.Check

/-- The text and the pattern, if the value and the first argument are texts. -/
def textAndPattern? (value : Json) (args : List Json) : Option (String × String) := do
  return (← value.text?, ← (← args.head?).text?)

/-- What the check expects, with the pattern between slashes. -/
def matchingText : List Json → String
  | .str pattern :: _ => "a string matching /" ++ pattern ++ "/"
  | other :: _ => "a string matching " ++ other.text
  | [] => "a string matching nothing"

/-- Passes for texts in which the first argument occurs as a pattern, as `engine` has it. -/
def matchingWith {ε ρ : Type} (engine : Pattern.Engine ε ρ) : Check :=
  { plain (fun value args => (textAndPattern? value args).any fun (text, pattern) =>
      engine.finds pattern text) matchingText with
    remarks value args := match textAndPattern? value args with
      | some (_, pattern) => if engine.accepts pattern then [] else [.invalidPattern pattern]
      | none => [] }

/-- The check for patterns with the engine that runs. -/
def matching : Check := matchingWith Pattern.engine

end Proviso.Check
