/-
  Proviso/Report/Json.lean
  ========================
  **Reports as values.**  The keys come in a fixed order; a default that is not there has no key.
-/
import Proviso.Instruction.Json
import Proviso.Json.Inspection
import Proviso.Report.Basic

namespace Proviso

/-- A default as a value; a computed one is only named. -/
def DefaultNote.toJson : DefaultNote → Json
  | .value j => j
  | .computed => .str "<computed>"

/-- A default spelled out. -/
def DefaultNote.inspect : DefaultNote → String
  | .value j => "Value(" ++ j.inspect ++ ")"
  | .computed => "Computed(..)"

def Options.toJson (o : Options) : Json :=
  .obj ([("throw_on_failure", .bool o.throwOnFailure), ("allow_absent", .bool o.allowAbsent)] ++
    (o.default.map fun d => ("default_value", d.toJson)).toList ++
    [("return_full_result", .bool o.returnFullResult), ("debug", .bool o.debug)])

/-- A mismatch as a value, with its message. -/
def Mismatch.toJson (m : Mismatch) : Json :=
  .obj [("expected_text", .str m.expected), ("provided_text", .str m.provided),
    ("message", .str m.message)]

def Failure.toJson : Failure → Json
  | .bypassed => .str "bypassed"
  | .mismatch m => .obj [("mismatch", m.toJson)]

def Report.toJson (r : Report) : Json :=
  .obj [("success", .bool r.success), ("options", r.options.toJson),
    ("instructions", (r.requirement.map Requirement.toJson).getD .null),
    ("initial_value", r.initialValue),
    ("failure", (r.failure.map Failure.toJson).getD .null),
    ("final_value", r.finalValue)]

end Proviso
