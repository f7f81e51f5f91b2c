/-
  Proviso/Error.lean
  ==================
  **Errors** of reading, evaluating and validating, by their causes.
-/
import Proviso.Report.Basic

namespace Proviso

/-- The deepest level of an instruction, with the root on level 1. -/
abbrev maxDepth : Nat := 128

/-- The keys under which an instruction lists others. -/
inductive Keyword where
  | all | any | and | or
  deriving DecidableEq, Repr

def Keyword.text : Keyword → String
  | .all => "all"
  | .any => "any"
  | .and => "and"
  | .or => "or"

inductive Error where
  /-- Under a keyword there is something other than a list. -/
  | notAList (key : Keyword) (found : Kind)
  /-- A shorthand condition names no check. -/
  | missingCheckName
  /-- An instruction goes below the deepest level. -/
  | tooDeep
  /-- There is no check under the name. -/
  | unknownCheck (name : String)
  /-- The value does not meet the instruction, and no default was asked for. -/
  | failed (report : Report)
  /-- The default could not be computed. -/
  | defaultValue (text : String)
  deriving Repr

namespace Error

def message : Error → String
  | .notAList key found =>
    "`" ++ key.text ++ "` must be a list of instructions, got " ++ found.text
  | .missingCheckName => "check shorthand has no check name"
  | .tooDeep => "instruction nesting exceeds " ++ maxDepth.repr ++ " levels"
  | .unknownCheck name => "unknown check `" ++ name ++ "`"
  | .failed report => report.message?.getD "validation failed"
  | .defaultValue text => text

/-- Whether the instruction itself is malformed. -/
def isStructural : Error → Bool
  | .notAList .. | .missingCheckName | .tooDeep => true
  | _ => false

/-- Whether a value failed its validation. -/
def isFailure : Error → Bool
  | .failed _ => true
  | _ => false

def report? : Error → Option Report
  | .failed report => some report
  | _ => none

end Error

end Proviso
