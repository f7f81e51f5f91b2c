/-
  Proviso/Event.lean
  ==================
  **What happens along the way**: the events of reading, evaluating and concluding, in the order
  in which they occur.

  All of them but the marks that a check leaves on purpose have an entry in the log.
-/
import Proviso.Instruction.Basic
import Proviso.Json.Printer

namespace Proviso

/-- What a check may leave in the log when it is evaluated. -/
inductive Remark where
  /-- A pattern is not well formed. -/
  | invalidPattern (pattern : String)
  /-- A mark of the evaluation itself, for those who count them. -/
  | mark (label : String) (args : List Json)
  deriving Repr

inductive Event where
  /-- The children of a list or a keyed object are read, on this level. -/
  | combined (level all any : Nat)
  /-- An instruction is read; it has this many conditions. -/
  | normalized (checks : Nat)
  /-- A check is evaluated for a condition; `passed` is the verdict on the condition. -/
  | evaluated (c : Condition) (passed : Bool)
  /-- The value is absent and may be. -/
  | absenceAllowed
  /-- A check leaves a remark. -/
  | remarked (r : Remark)
  /-- The value does not meet the instruction. -/
  | mismatched (message : String)
  /-- A validation is over. -/
  | concluded (success bypassed : Bool) (initial final : Json) (message : Option String)
  deriving Repr

/-- How much an entry of the log matters. -/
inductive Severity where
  | trace | debug | warn
  deriving DecidableEq, Repr

def Severity.text : Severity → String
  | .trace => "trace"
  | .debug => "debug"
  | .warn => "warn"

/-- An entry of the log, with the names and texts of its fields. -/
structure LogEntry where
  severity : Severity
  message : String
  fields : List (String × String)
  deriving Repr

namespace Event

/-- The entry of an event in the log. -/
def entry? : Event → Option LogEntry
  | .combined level all any => some ⟨.trace, "Combining collections",
      [("depth", level.repr), ("all", all.repr), ("any", any.repr)]⟩
  | .normalized checks => some ⟨.trace, "Normalized instruction", [("checks", checks.repr)]⟩
  | .evaluated c passed => some ⟨.trace, "Evaluated check",
      [("check", c.name), ("negate", (Json.bool c.negate).text), ("passed", (Json.bool passed).text)]⟩
  | .absenceAllowed => some ⟨.trace, "Absent value allowed, skipping checks", []⟩
  | .remarked (.invalidPattern pattern) =>
    some ⟨.warn, "invalid pattern in `matches` check", [("pattern", pattern)]⟩
  | .mismatched message => some ⟨.debug, "Validation failed", [("failure", message)]⟩
  | .concluded success bypassed initial final message => some ⟨.debug, "Validation outcome",
      [("success", (Json.bool success).text), ("bypassed", (Json.bool bypassed).text),
       ("initial_value", initial.text), ("final_value", final.text),
       ("failure", message.getD "")]⟩
  | .remarked (.mark _ _) => none

/-- The text of a mark: its label and the arguments of the check that left it. -/
def mark? : Event → Option String
  | .remarked (.mark label args) => some (label ++ (Json.arr args).text)
  | _ => none

/-- The condition that an evaluation was for. -/
def condition? : Event → Option Condition
  | .evaluated c _ => some c
  | _ => none

end Event

/-- The entries of the log, those of severity `trace` only if they are asked for. -/
def logEntries (withTrace : Bool) (events : List Event) : List LogEntry :=
  (events.filterMap Event.entry?).filter fun e => withTrace || e.severity != .trace

end Proviso
