/-
  Proviso/Registry/Builtin.lean
  =============================
  **The checks every registry starts with**, unless it is to start empty.
-/
import Proviso.Check.Comparison
import Proviso.Check.Kind
import Proviso.Check.Matching
import Proviso.Check.Presence
import Proviso.Check.Size
import Proviso.Registry.Basic

namespace Proviso.Registry

/-- The built-in checks with their names, for an engine that searches for patterns. -/
def builtinChecks {ε ρ : Type} (engine : Pattern.Engine ε ρ) : List (String × Check) :=
  [("absent", .absent), ("empty", .empty),
   ("isString", .isString), ("isNumber", .isNumber), ("isInteger", .isInteger),
   ("isFinite", .isFinite), ("isBoolean", .isBoolean), ("isArray", .isArray),
   ("isObject", .isObject),
   ("equals", .equals), ("oneOf", .oneOf), ("min", .min), ("max", .max),
   ("minLength", .minLength), ("maxLength", .maxLength), ("matches", .matchingWith engine)]

/-- The registry of the built-in checks, for an engine that searches for patterns. -/
def builtinWith {ε ρ : Type} (engine : Pattern.Engine ε ρ) : Registry :=
  empty.registerAll (builtinChecks engine)

/-- The registry of the built-in checks with the engine that runs. -/
def builtin : Registry := builtinWith Pattern.engine

end Proviso.Registry
