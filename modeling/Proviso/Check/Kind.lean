/-
  Proviso/Check/Kind.lean
  =======================
  **Checks for the kind of a value.**  They take no arguments.
-/
import Proviso.Check.Basic

namespace Proviso.Check

/-- Passes for values of the given kinds. -/
def ofKinds (kinds : List Kind) (text : String) : Check :=
  plain (fun value _ => kinds.contains value.kind) fun _ => text

def isString : Check := ofKinds [.string] "a string"

/-- Passes for numbers, integral or not. -/
def isNumber : Check := ofKinds [.integer, .number] "a number"

/-- Passes for numbers without fractional part, such as `5` and `5.0`. -/
def isInteger : Check := ofKinds [.integer] "an integer"

/-- Passes for finite numbers, which all numbers of a document are. -/
def isFinite : Check := ofKinds [.integer, .number] "a finite number"

def isBoolean : Check := ofKinds [.boolean] "a boolean"

def isArray : Check := ofKinds [.array] "an array"

def isObject : Check := ofKinds [.object] "an object"

end Proviso.Check
