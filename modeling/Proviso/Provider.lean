/-
  Proviso/Provider.lean
  =====================
  **Computed defaults** that need nothing but what a provider is given.
-/
import Proviso.Report.Json
import Proviso.Validate

namespace Proviso.Provider

/-- The report of the failed validation as a value. -/
def report : Provider := fun r _ => pure r.toJson

def message : Provider := fun r _ => pure (.str (r.message?.getD ""))

def checkNames : Provider := fun _ registry => pure (.arr (registry.names.map .str))

/-- No default, for a reason. -/
def refusal (reason : String) : Provider := fun _ _ => Logged.fail reason

/-- What another draft hands out for the same value. -/
def otherwise (d : Draft) : Provider := fun r registry =>
  (return (← d.validate registry r.initialValue).finalValue : Logged Error Json).mapError
    Error.message

end Proviso.Provider
