/-
  Proviso/Check/Presence.lean
  ===========================
  **Checks for presence.**  An absent value is `null`.
-/
import Proviso.Check.Basic

namespace Proviso.Check

/-- Passes for `null`.  Its opposite has words of its own. -/
def absent : Check where
  passes value _ := value.isNull
  wording negate _ := if negate then "a present value" else "an absent value"

/-- Whether a value is `null`, or a text, list or object of size zero. -/
def isEmptyValue (value : Json) : Bool := value.isNull || value.size? == some 0

/-- Passes for `null` and for texts, lists and objects of size zero. -/
def empty : Check := plain (fun value _ => isEmptyValue value) fun _ => "empty"

end Proviso.Check
