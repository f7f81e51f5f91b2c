/-
  Proviso/Check/Probe.lean
  ========================
  **Probes**: checks with a fixed verdict that leave a mark whenever they are evaluated, so the
  log shows which conditions were looked at, and in which order.
-/
import Proviso.Check.Basic

namespace Proviso.Check

/-- A check with a fixed verdict that marks its evaluations with `label`. -/
def probe (label : String) (passes : Bool) : Check :=
  { plain (fun _ _ => passes) fun _ => label with
    remarks _ args := [.mark label args] }

end Proviso.Check
