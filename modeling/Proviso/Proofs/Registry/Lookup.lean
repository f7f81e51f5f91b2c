/-
  Proviso/Proofs/Registry/Lookup.lean
  ===================================
  **What is found, and what after registering.**

  A look-up succeeds with the check kept under the key of the name, and its only error shows the name
  as asked for (`find_eq_ok_iff`, `find_eq_error_iff`).  A check is found under every spelling of the
  name it was registered under, and registering it changes nothing for the other names
  (`get?_register`).  So every name of a row that is registered is known afterwards
  (`has_registerAll_of_mem`).
-/
import Proviso.Registry.Basic

namespace Proviso.Registry

/-! ### One look-up -/

theorem find_eq_ok_iff {r : Registry} {name : String} {check : Check} :
    r.find name = .ok check ↔ r.get? name = some check := by
  rw [find]
  cases r.get? name with
  | none => simp
  | some found => simp

theorem find_eq_error_iff {r : Registry} {name : String} {e : Error} :
    r.find name = .error e ↔ r.get? name = none ∧ e = .unknownCheck name := by
  rw [find]
  cases r.get? name with
  | none => simp [eq_comm]
  | some found => simp

theorem has_iff {r : Registry} {name : String} :
    r.has name = true ↔ ∃ check, r.find name = .ok check := by
  simp only [find_eq_ok_iff, has, Option.isSome_iff_exists]

/-! ### Registering -/

theorem lookup_cons (name wanted : String) (check : Check) (entries : List (String × Check)) :
    List.lookup wanted ((name, check) :: entries) =
      if wanted = name then some check else entries.lookup wanted := by
  rw [List.lookup_cons]
  by_cases h : wanted = name
  · rw [if_pos h, beq_iff_eq.mpr h]
  · rw [if_neg h, beq_eq_false_iff_ne.mpr h]

theorem lookup_insertEntry (name wanted : String) (check : Check)
    (entries : List (String × Check)) :
    (insertEntry name check entries).lookup wanted =
      if wanted = name then some check else entries.lookup wanted := by
  induction entries with
  | nil => rw [insertEntry, lookup_cons]
  | cons e rest ih =>
    obtain ⟨found, old⟩ := e
    rw [insertEntry]
    by_cases hfound : found = name
    · -- the entry under this name gives way
      subst hfound
      rw [if_pos rfl, lookup_cons, lookup_cons]
      by_cases h : wanted = found
      · rw [if_pos h, if_pos h]
      · rw [if_neg h, if_neg h, if_neg h]
    · rw [if_neg hfound]
      by_cases hlt : bytes name < bytes found
      · rw [if_pos hlt, lookup_cons]
      · rw [if_neg hlt, lookup_cons, lookup_cons, ih]
        by_cases h : wanted = found
        · subst h
          rw [if_pos rfl, if_neg hfound, if_pos rfl]
        · rw [if_neg h, if_neg h]

/-- **Registering a check** is seen under its own name only. -/
theorem get?_register (r : Registry) (name wanted : String) (check : Check) :
    (r.register name check).get? wanted =
      if key wanted = key name then some check else r.get? wanted :=
  lookup_insertEntry (key name) (key wanted) check r.entries

theorem has_register (r : Registry) (name wanted : String) (check : Check) :
    (r.register name check).has wanted = (decide (key wanted = key name) || r.has wanted) := by
  rw [has, get?_register]
  by_cases h : key wanted = key name
  · simp [h]
  · simp [h, has]

theorem has_registerAll_of_has {r : Registry} {name : String} (h : r.has name = true)
    (checks : List (String × Check)) : (r.registerAll checks).has name = true := by
  induction checks generalizing r with
  | nil => exact h
  | cons c rest ih => exact ih (by rw [has_register, h, Bool.or_true])

theorem has_registerAll_of_mem {r : Registry} {name : String} {checks : List (String × Check)}
    (h : name ∈ checks.map Prod.fst) : (r.registerAll checks).has name = true := by
  induction checks generalizing r with
  | nil => cases h
  | cons c rest ih =>
    rw [List.map_cons] at h
    rcases List.mem_cons.mp h with rfl | h
    · exact has_registerAll_of_has (by simp [has_register]) rest
    · exact ih h

/-- What holds of the checks that are there, and of those that are registered, holds of all that are
    found. -/
theorem forall_get?_registerAll {p : Check → Prop} {r : Registry} {checks : List (String × Check)}
    (hr : ∀ name check, r.get? name = some check → p check) (h : ∀ c ∈ checks, p c.2) :
    ∀ name check, (r.registerAll checks).get? name = some check → p check := by
  induction checks generalizing r with
  | nil => exact hr
  | cons c rest ih =>
    rw [List.forall_mem_cons] at h
    refine ih ?_ h.2
    intro name check hget
    rw [get?_register] at hget
    split at hget
    · cases hget
      exact h.1
    · exact hr name check hget

/-- There is a registry for any names. -/
theorem exists_forall_has (names : List String) :
    ∃ r : Registry, ∀ name ∈ names, r.has name = true := by
  let check : Check := .plain (fun _ _ => true) fun _ => ""
  refine ⟨empty.registerAll (names.map (·, check)), fun name h => has_registerAll_of_mem ?_⟩
  rw [List.map_map]
  exact List.mem_map.mpr ⟨name, h, rfl⟩

end Proviso.Registry
