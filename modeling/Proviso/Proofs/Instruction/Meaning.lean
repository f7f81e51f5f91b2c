/-
  Proviso/Proofs/Instruction/Meaning.lean
  =======================================
  **What a tree says of a value**, without stopping early and without a registry.

  An assignment gives every name a predicate, also the names no check is registered under.  Under
  an assignment a tree holds of a value or does not: `Instruction.holds` looks at all its
  conditions.  Simplification keeps this meaning whatever the children look like
  (`holds_flatten`), and whenever evaluation gives a verdict it is this one
  (`holds_of_evaluateWithin`), although it may have skipped conditions on unknown names.
-/
import Proviso.Instruction.Verdict
import Proviso.Proofs.Instruction.Tree
import Proviso.Proofs.Logged.Rows
import Proviso.Proofs.Registry.Lookup

namespace Proviso

/-! ### Assignments -/

/-- What a value has to satisfy for each name, under arguments. -/
abbrev Assignment := String → List Json → Json → Bool

/-- Every registered name has the predicate of its check. -/
def Assignment.AgreesWith (σ : Assignment) (registry : Registry) : Prop :=
  ∀ name check, registry.get? name = some check →
    ∀ args value, σ name args value = check.passes value args

/-- The predicates of a registry; names it does not know are never satisfied. -/
def Registry.assignment (registry : Registry) : Assignment :=
  fun name args value => (registry.get? name).any (·.passes value args)

theorem Registry.assignment_agreesWith (registry : Registry) :
    registry.assignment.AgreesWith registry := by
  intro name check h args value
  simp only [assignment, h, Option.any_some]

/-! ### The verdict of a row -/

/-- A row of verdicts under a connective. -/
def Connective.verdict : Connective → List Bool → Bool
  | .all, bs => bs.all id
  | .any, bs => bs.any id

/-- A row has the neutral verdict iff all its members have it. -/
theorem Connective.verdict_eq_neutral_iff (k : Connective) (bs : List Bool) :
    k.verdict bs = k.neutral ↔ ∀ b ∈ bs, b = k.neutral := by
  cases k with
  | all => simp [verdict, neutral]
  | any => simp [verdict, neutral]

/-- Two rows have the same verdict if they have the neutral one alike. -/
theorem Connective.verdict_congr {k : Connective} {as bs : List Bool}
    (h : (∀ a ∈ as, a = k.neutral) ↔ ∀ b ∈ bs, b = k.neutral) : k.verdict as = k.verdict bs := by
  rw [← verdict_eq_neutral_iff, ← verdict_eq_neutral_iff] at h
  by_cases hn : k.verdict as = k.neutral
  · rw [hn, h.mp hn]
  · have hm : k.verdict bs ≠ k.neutral := fun hm => hn (h.mpr hm)
    rw [Bool.eq_not.mpr hn, Bool.eq_not.mpr hm]

/-! ### Meaning -/

variable (σ : Assignment) (value : Json)

/-- Whether a condition holds of a value. -/
def Condition.holds (c : Condition) : Bool := σ c.name c.args value != c.negate

namespace Instruction

mutual

/-- Whether a tree holds of a value. -/
def holds : Instruction → Bool
  | .check c => c.holds σ value
  | .group k cs => k.verdict (holdsEach cs)

def holdsEach : List Instruction → List Bool
  | [] => []
  | t :: rest => t.holds :: holdsEach rest

end

theorem holdsEach_eq_map (cs : List Instruction) :
    holdsEach σ value cs = cs.map (holds σ value) := by
  induction cs with
  | nil => rfl
  | cons t rest ih => rw [holdsEach, ih, List.map_cons]

@[simp] theorem holds_check (c : Condition) : holds σ value (.check c) = c.holds σ value := rfl

@[simp] theorem holds_group (k : Connective) (cs : List Instruction) :
    holds σ value (.group k cs) = k.verdict (cs.map (holds σ value)) := by
  rw [holds, holdsEach_eq_map]

variable {σ value}

theorem holds_group_eq_neutral_iff {k : Connective} {cs : List Instruction} :
    holds σ value (.group k cs) = k.neutral ↔ ∀ t ∈ cs, t.holds σ value = k.neutral := by
  rw [holds_group, Connective.verdict_eq_neutral_iff, List.forall_mem_map]

/-! ### Simplification -/

/-- Dissolving children that are joined like their group does not change what the group says. -/
theorem holds_group_dissolve (k : Connective) (cs : List Instruction) :
    holds σ value (.group k (dissolve k cs)) = holds σ value (.group k cs) := by
  rw [holds_group, holds_group]
  apply Connective.verdict_congr
  rw [List.forall_mem_map, List.forall_mem_map]
  constructor
  · intro h t ht
    cases hk : t.joinedBy k with
    | false => exact h t (mem_dissolve.mpr (Or.inl ⟨ht, hk⟩))
    | true =>
      -- a dissolved child is neutral because the children it gave way to are
      have hg : Instruction.group k t.children = t := (eq_group_of_joinedBy hk).symm
      rw [← hg, holds_group_eq_neutral_iff]
      intro u hu
      exact h u (mem_dissolve.mpr (Or.inr ⟨t.children, hg.symm ▸ ht, hu⟩))
  · intro h t ht
    rcases mem_dissolve.mp ht with ⟨ht, -⟩ | ⟨ds, hg, ht⟩
    · exact h t ht
    · exact holds_group_eq_neutral_iff.mp (h (.group k ds) hg) t ht

theorem holds_group_singleton (k : Connective) (t : Instruction) :
    holds σ value (.group k [t]) = t.holds σ value := by
  cases k <;> simp [Connective.verdict]

/-- **Simplification keeps the meaning**, also of groups whose children are not simple. -/
theorem holds_flatten (place : Place) (t : Instruction) :
    (t.flatten place).holds σ value = t.holds σ value := by
  cases t with
  | check c => rfl
  | group k cs =>
    rcases flatten_group place k cs with ⟨-, t, rfl, h⟩ | ⟨-, h⟩
    · rw [h, holds_group_singleton]
    · rw [h, holds_group_dissolve]

end Instruction

/-! ### Evaluation -/

variable {σ value} {registry : Registry}

theorem Condition.holds_of_evaluate {c : Condition} {b : Bool} (hσ : σ.AgreesWith registry)
    (h : (c.evaluate registry value).result = .ok b) : c.holds σ value = b := by
  rw [result_evaluate] at h
  obtain ⟨check, hfind, hb⟩ := bind_eq_ok_iff.mp h
  rw [holds, hσ c.name check (Registry.find_eq_ok_iff.mp hfind)]
  exact Except.ok.inj hb

namespace Instruction

/-- A verdict of an evaluation is the meaning of the tree, whatever was skipped on the way. -/
theorem holds_of_evaluateWithin (hσ : σ.AgreesWith registry) {room : Nat} {t : Instruction}
    {b : Bool} (h : (t.evaluateWithin registry value room).result = .ok b) :
    t.holds σ value = b := by
  induction t generalizing room b with
  | check c =>
    cases room with
    | zero => cases h
    | succ room => exact Condition.holds_of_evaluate hσ h
  | group k cs ih =>
    cases room with
    | zero => cases h
    | succ room =>
      rcases Logged.result_untilOther_eq_ok h with ⟨rfl, hall⟩ | ⟨hb, t, ht, hres⟩
      · exact holds_group_eq_neutral_iff.mpr fun t ht => ih t ht (hall t ht)
      · -- one child with the other verdict decides, also about those behind it
        have hne : holds σ value (.group k cs) ≠ k.neutral := by
          intro hneutral
          have hn := holds_group_eq_neutral_iff.mp hneutral t ht
          exact hb ((ih t ht hres).symm.trans hn)
        exact (Bool.eq_not.mpr hne).trans (Bool.eq_not.mpr hb).symm

end Instruction

namespace Requirement

variable (σ value) in
/-- Whether a requirement holds of a value. -/
def holds (r : Requirement) : Bool := r.root.holds σ value

theorem holds_ofInstruction (t : Instruction) :
    (ofInstruction t).holds σ value = t.holds σ value := by
  cases t with
  | check c => exact Instruction.holds_group_singleton .all (.check c)
  | group k cs => rfl

theorem holds_of_evaluate (hσ : σ.AgreesWith registry) {r : Requirement} {b : Bool}
    (h : (r.evaluate registry value).result = .ok b) : r.holds σ value = b :=
  Instruction.holds_of_evaluateWithin hσ h

end Requirement

end Proviso
