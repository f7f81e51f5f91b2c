/-
  Proviso/Proofs/Registry/Builtin.lean
  ====================================
  **The built-in checks, one by one.**

  Whatever engine searches for patterns, the built-in checks are sixteen, and what holds of each of
  them holds of all that the built-in registry finds.  The cases of `forall_mem_builtinChecks` go
  by the names of the checks.
-/
import Proviso.Proofs.Registry.Lookup
import Proviso.Registry.Builtin

namespace Proviso.Registry

variable {ε ρ : Type} {engine : Pattern.Engine ε ρ}

/-- What holds of each built-in check under its name holds of all that are listed. -/
theorem forall_mem_builtinChecks {p : String → Check → Prop}
    (absent : p "absent" .absent)
    (empty : p "empty" .empty)
    (isString : p "isString" .isString)
    (isNumber : p "isNumber" .isNumber)
    (isInteger : p "isInteger" .isInteger)
    (isFinite : p "isFinite" .isFinite)
    (isBoolean : p "isBoolean" .isBoolean)
    (isArray : p "isArray" .isArray)
    (isObject : p "isObject" .isObject)
    (equals : p "equals" .equals)
    (oneOf : p "oneOf" .oneOf)
    (min : p "min" .min)
    (max : p "max" .max)
    (minLength : p "minLength" .minLength)
    (maxLength : p "maxLength" .maxLength)
    (matching : p "matches" (.matchingWith engine)) :
    ∀ c ∈ builtinChecks engine, p c.1 c.2 := by
  simp only [builtinChecks, List.forall_mem_cons]
  exact ⟨absent, empty, isString, isNumber, isInteger, isFinite, isBoolean, isArray, isObject,
    equals, oneOf, min, max, minLength, maxLength, matching, List.forall_mem_nil _⟩

theorem forall_get?_builtinWith {p : Check → Prop} (h : ∀ c ∈ builtinChecks engine, p c.2) :
    ∀ name check, (builtinWith engine).get? name = some check → p check :=
  forall_get?_registerAll (fun _ _ hempty => nomatch hempty) h

/-- The names do not depend on the engine. -/
theorem map_fst_builtinChecks : (builtinChecks engine).map Prod.fst =
    ["absent", "empty", "isString", "isNumber", "isInteger", "isFinite", "isBoolean", "isArray",
      "isObject", "equals", "oneOf", "min", "max", "minLength", "maxLength", "matches"] :=
  rfl

theorem nodup_key_builtinChecks : ((builtinChecks engine).map fun c => key c.1).Nodup := by
  have hkeys : ((builtinChecks engine).map fun c => key c.1) =
      ((builtinChecks engine).map Prod.fst).map key := (List.map_map ..).symm
  rw [hkeys, map_fst_builtinChecks]
  decide +kernel

end Proviso.Registry
