/-
  Proviso/Proofs/Instruction/Tree.lean
  ====================================
  **Trees and their rows of children.**

  Induction over a tree assumes the claim for every child of a group.  What dissolving a row does
  is told by membership: a child joined like the group gives way to its own children
  (`mem_dissolve`).  Told with all repetitions, a row keeps what its members contribute to the
  group, up to the order (`dissolve_perm`), and so it keeps their conditions.
-/
import Mathlib.Data.List.Forall2
import Proviso.Instruction.Flatten

namespace Proviso.Instruction

/-- To prove something of every tree, prove it of a condition, and of a group whose children all
    have it. -/
@[elab_as_elim, induction_eliminator]
theorem induction {motive : Instruction → Prop} (check : ∀ c, motive (.check c))
    (group : ∀ k cs, (∀ t ∈ cs, motive t) → motive (.group k cs)) : ∀ t, motive t
  | .check c => check c
  | .group k cs => group k cs fun t _ => induction check group t

theorem mem_conditions_group {k : Connective} {cs : List Instruction} {c : Condition} :
    c ∈ (group k cs).conditions ↔ ∃ t ∈ cs, c ∈ t.conditions := by
  rw [conditions, conditionsOf_eq_flatMap, List.mem_flatMap]

/-! ### Dissolving -/

theorem joinedBy_group (k m : Connective) (cs : List Instruction) :
    joinedBy k (.group m cs) = decide (m = k) := by
  cases k <;> cases m <;> rfl

theorem eq_group_of_joinedBy {k : Connective} {t : Instruction} (h : t.joinedBy k = true) :
    t = .group k t.children := by
  cases t with
  | check c => cases h
  | group m cs =>
    rw [joinedBy_group, decide_eq_true_eq] at h
    rw [h, children]

theorem mem_dissolve {k : Connective} {cs : List Instruction} {t : Instruction} :
    t ∈ dissolve k cs ↔ (t ∈ cs ∧ t.joinedBy k = false) ∨
      ∃ ds, .group k ds ∈ cs ∧ t ∈ ds := by
  simp only [dissolve, List.mem_append, List.mem_filter, List.mem_flatMap, Bool.not_eq_true']
  constructor
  · rintro (h | ⟨g, ⟨hg, hk⟩, ht⟩)
    · exact Or.inl h
    · exact Or.inr ⟨g.children, eq_group_of_joinedBy hk ▸ hg, ht⟩
  · rintro (h | ⟨ds, hg, ht⟩)
    · exact Or.inl h
    · exact Or.inr ⟨.group k ds, ⟨hg, by simp [joinedBy_group]⟩, ht⟩

/-- A simplification step leaves a group of one child to that child below the root, and dissolves
    the children of any other group. -/
theorem flatten_group (place : Place) (k : Connective) (cs : List Instruction) :
    (place = .nested ∧ ∃ t, cs = [t] ∧ flatten place (.group k cs) = t) ∨
      (place = .nested → cs.length ≠ 1) ∧
        flatten place (.group k cs) = .group k (dissolve k cs) := by
  match place, cs with
  | .root, _ => exact Or.inr ⟨nofun, rfl⟩
  | .nested, [] => exact Or.inr ⟨fun _ => Nat.zero_ne_one, rfl⟩
  | .nested, [t] => exact Or.inl ⟨rfl, t, rfl, rfl⟩
  | .nested, _ :: _ :: _ => exact Or.inr ⟨fun _ => by simp, rfl⟩

/-- What a tree contributes to a group with the connective `k`: its children if it is joined alike,
    and itself otherwise. -/
def operands (k : Connective) (t : Instruction) : List Instruction :=
  if t.joinedBy k then t.children else [t]

theorem operands_group (k : Connective) (cs : List Instruction) :
    operands k (.group k cs) = cs := by
  rw [operands, joinedBy_group, decide_eq_true rfl, if_pos rfl, children]

/-- Dissolving keeps what each child contributes, and only changes the order. -/
theorem dissolve_perm (k : Connective) (cs : List Instruction) :
    (dissolve k cs).Perm (cs.flatMap (operands k)) := by
  have hstay : (cs.filter (!·.joinedBy k)).flatMap (operands k) = cs.filter (!·.joinedBy k) := by
    refine (List.flatMap_congr fun t ht => ?_).trans (List.flatMap_singleton' _)
    have hjoined : (!t.joinedBy k) = true := (List.mem_filter.mp ht).2
    rw [Bool.not_eq_true'] at hjoined
    rw [operands, hjoined, if_neg Bool.false_ne_true]
  have hdissolved : (cs.filter (·.joinedBy k)).flatMap (operands k) =
      (cs.filter (·.joinedBy k)).flatMap children := by
    refine List.flatMap_congr fun t ht => ?_
    rw [operands, if_pos (List.mem_filter.mp ht).2]
  have hsplit : (cs.filter (!·.joinedBy k) ++ cs.filter (·.joinedBy k)).Perm cs :=
    List.perm_append_comm.trans (List.filter_append_perm (·.joinedBy k) cs)
  have hperm := hsplit.flatMap_right (operands k)
  rw [List.flatMap_append, hstay, hdissolved] at hperm
  exact hperm

/-- A group that is simplified contributes what its children contribute, also where it is left out
    for its only child. -/
theorem operands_flatten_perm (place : Place) (k : Connective) (cs : List Instruction) :
    (operands k ((group k cs).flatten place)).Perm (cs.flatMap (operands k)) := by
  rcases flatten_group place k cs with ⟨-, t, rfl, h⟩ | ⟨-, h⟩
  · rw [h, List.flatMap_singleton]
  · rw [h, operands_group]
    exact dissolve_perm k cs

/-! ### The conditions of a tree that is simplified -/

theorem conditionsOf_append (cs ds : List Instruction) :
    conditionsOf (cs ++ ds) = conditionsOf cs ++ conditionsOf ds := by
  simp only [conditionsOf_eq_flatMap, List.flatMap_append]

theorem conditions_group (k : Connective) (cs : List Instruction) :
    (group k cs).conditions = conditionsOf cs := by
  rw [conditions]

theorem conditionsOf_operands (k : Connective) (t : Instruction) :
    conditionsOf (operands k t) = t.conditions := by
  cases h : t.joinedBy k with
  | false =>
    rw [operands, h, if_neg Bool.false_ne_true, conditionsOf, conditionsOf, List.append_nil]
  | true => rw [eq_group_of_joinedBy h, operands_group, conditions_group]

/-- Dissolving only changes the order of the conditions. -/
theorem conditionsOf_dissolve_perm (k : Connective) (cs : List Instruction) :
    (conditionsOf (dissolve k cs)).Perm (conditionsOf cs) := by
  have hperm := (dissolve_perm k cs).flatMap_right conditions
  rw [List.flatMap_assoc] at hperm
  simp only [← conditionsOf_eq_flatMap, conditionsOf_operands] at hperm
  exact hperm

/-- **A step of simplification keeps the conditions**, up to their order, also of groups whose
    children are not simple. -/
theorem conditions_flatten_perm (place : Place) (t : Instruction) :
    (t.flatten place).conditions.Perm t.conditions := by
  cases t with
  | check c => exact List.Perm.refl _
  | group k cs =>
    rcases flatten_group place k cs with ⟨-, t, rfl, h⟩ | ⟨-, h⟩
    · rw [h, conditions_group, conditionsOf, conditionsOf, List.append_nil]
    · rw [h, conditions_group, conditions_group]
      exact conditionsOf_dissolve_perm k cs

end Proviso.Instruction
