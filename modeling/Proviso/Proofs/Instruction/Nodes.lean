/-
  Proviso/Proofs/Instruction/Nodes.lean
  =====================================
  **The nodes of a tree, and the first of them that cannot be described.**

  A node is a subtree together with its level; the root of a requirement stands on level 1.  What
  is wrong with a node is that it stands too deep, or that it is a condition whose name no check
  is registered under.

  A description visits the nodes from left to right, each before its children, and stops at the
  first that something is wrong with (`error?_describeWithin`).  An evaluation visits some of
  them, in the same order, and its error is that of one of them
  (`exists_offence_of_evaluateWithin`); it need not be the first, and there need not be an error
  where a description has one.
-/
import Proviso.Proofs.Instruction.Height

namespace Proviso

/-- A subtree, with the level it stands on. -/
structure Node where
  level : Nat
  tree : Instruction

namespace Instruction

mutual

/-- The nodes of a tree whose root stands on this level, each before its children. -/
def nodes (level : Nat) : Instruction → List Node
  | .check c => [⟨level, .check c⟩]
  | .group k cs => ⟨level, .group k cs⟩ :: nodesOf (level + 1) cs

def nodesOf (level : Nat) : List Instruction → List Node
  | [] => []
  | t :: rest => nodes level t ++ nodesOf level rest

end

theorem nodesOf_eq_flatMap (level : Nat) (cs : List Instruction) :
    nodesOf level cs = cs.flatMap (nodes level) := by
  induction cs with
  | nil => rfl
  | cons t rest ih => rw [nodesOf, ih, List.flatMap_cons]

theorem exists_nodes_eq_cons (level : Nat) (t : Instruction) :
    ∃ below, t.nodes level = ⟨level, t⟩ :: below := by
  cases t with
  | check c => exact ⟨[], by rw [nodes]⟩
  | group k cs => exact ⟨nodesOf (level + 1) cs, by rw [nodes]⟩

theorem root_mem_nodes (level : Nat) (t : Instruction) : ⟨level, t⟩ ∈ t.nodes level := by
  obtain ⟨below, h⟩ := exists_nodes_eq_cons level t
  rw [h]
  exact List.mem_cons_self

theorem mem_nodes_group {level : Nat} {k : Connective} {cs : List Instruction} {n : Node} :
    n ∈ (group k cs).nodes level ↔
      n = ⟨level, .group k cs⟩ ∨ ∃ t ∈ cs, n ∈ t.nodes (level + 1) := by
  rw [nodes, List.mem_cons, nodesOf_eq_flatMap, List.mem_flatMap]

theorem mem_conditions_iff (level : Nat) {t : Instruction} {c : Condition} :
    c ∈ t.conditions ↔ ∃ n ∈ t.nodes level, n.tree = .check c := by
  induction t generalizing level with
  | check d => simp [conditions, nodes, eq_comm]
  | group k cs ih =>
    rw [mem_conditions_group]
    constructor
    · rintro ⟨t, ht, hc⟩
      obtain ⟨n, hn, htree⟩ := (ih t ht (level + 1)).mp hc
      exact ⟨n, mem_nodes_group.mpr (Or.inr ⟨t, ht, hn⟩), htree⟩
    · rintro ⟨n, hn, htree⟩
      rcases mem_nodes_group.mp hn with rfl | ⟨t, ht, hn⟩
      · cases htree
      · exact ⟨t, ht, (ih t ht (level + 1)).mpr ⟨n, hn, htree⟩⟩

end Instruction

/-! ### What is wrong with a node -/

variable {registry : Registry} {value : Json}

/-- What is wrong with a node itself; its level comes first. -/
def Node.offence? (registry : Registry) (n : Node) : Option Error :=
  if maxDepth < n.level then some .tooDeep
  else
    match n.tree with
    | .check c => if registry.has c.name then none else some (.unknownCheck c.name)
    | .group _ _ => none

namespace Node

theorem offence?_of_lt {n : Node} (h : maxDepth < n.level) :
    n.offence? registry = some .tooDeep := by
  rw [offence?, if_pos h]

theorem offence?_check {level : Nat} (h : level ≤ maxDepth) (c : Condition) :
    offence? registry ⟨level, .check c⟩ =
      if registry.has c.name then none else some (.unknownCheck c.name) := by
  rw [offence?, if_neg (Nat.not_lt_of_le h)]

theorem offence?_group {level : Nat} (h : level ≤ maxDepth) (k : Connective)
    (cs : List Instruction) : offence? registry ⟨level, .group k cs⟩ = none := by
  rw [offence?, if_neg (Nat.not_lt_of_le h)]

theorem offence?_eq_none_iff {n : Node} : n.offence? registry = none ↔
    n.level ≤ maxDepth ∧ ∀ c, n.tree = .check c → registry.has c.name = true := by
  obtain ⟨level, t⟩ := n
  by_cases hlevel : maxDepth < level
  · have hdeep : offence? registry ⟨level, t⟩ = some .tooDeep := offence?_of_lt hlevel
    simp [hdeep, Nat.not_le_of_lt hlevel]
  · have hle : level ≤ maxDepth := Nat.le_of_not_lt hlevel
    cases t with
    | check c => simp [offence?_check hle, hle]
    | group k cs => simp [offence?_group hle, hle]

end Node

/-! ### A description stops at the first offence -/

theorem Condition.error?_describe (c : Condition) : error? (c.describe registry) =
    if registry.has c.name then none else some (.unknownCheck c.name) := by
  rw [describe, error?_bind (e := none) (fun _ _ => rfl), Option.or_none, Registry.find,
    Registry.has]
  cases registry.get? c.name with
  | none => rfl
  | some check => rfl

namespace Instruction

theorem findSome?_nodesOf (level : Nat) (cs : List Instruction) :
    (nodesOf level cs).findSome? (Node.offence? registry) =
      cs.findSome? fun t => (t.nodes level).findSome? (Node.offence? registry) := by
  induction cs with
  | nil => rfl
  | cons t rest ih =>
    rw [nodesOf, List.findSome?_append, ih, List.findSome?_cons]
    cases (t.nodes level).findSome? (Node.offence? registry) <;> rfl

/-- **The error of a description is the first offence**, with room for the levels from this one
    on. -/
theorem error?_describeWithin {room level : Nat} (h : room + level = maxDepth + 1)
    (place : Place) (t : Instruction) : error? (t.describeWithin registry room place) =
      (t.nodes level).findSome? (Node.offence? registry) := by
  induction t generalizing room level place with
  | check c =>
    rw [nodes, List.findSome?_singleton]
    cases room with
    | zero => rw [Node.offence?_of_lt (by simp; omega)]; rfl
    | succ room => rw [Node.offence?_check (by omega), describeWithin, Condition.error?_describe]
  | group k cs ih =>
    cases room with
    | zero =>
      -- there is no room left exactly where the level is too deep
      rw [nodes, List.findSome?_cons, Node.offence?_of_lt (by simp; omega)]
      rfl
    | succ room =>
      have hrow : (cs.findSome? fun t => error? (t.describeWithin registry room .nested)) =
          cs.findSome? fun t => (t.nodes (level + 1)).findSome? (Node.offence? registry) := by
        apply findSome?_congr
        intro t ht
        exact ih t ht (by omega) .nested
      rw [describeWithin, error?_bind (e := none) (fun _ _ => rfl), error?_mapM, Option.or_none,
        hrow, nodes, List.findSome?_cons, Node.offence?_group (by omega), findSome?_nodesOf]

/-- The error of an evaluation is the offence of a node. -/
theorem exists_offence_of_evaluateWithin {room level : Nat} (h : room + level = maxDepth + 1)
    {t : Instruction} {e : Error}
    (herror : (t.evaluateWithin registry value room).result = .error e) :
    ∃ n ∈ t.nodes level, n.offence? registry = some e := by
  induction t generalizing room level with
  | check c =>
    refine ⟨_, root_mem_nodes level _, ?_⟩
    cases room with
    | zero =>
      cases herror
      exact Node.offence?_of_lt (by simp; omega)
    | succ room =>
      obtain ⟨hunknown, rfl⟩ := Condition.evaluate_eq_error herror
      rw [Node.offence?_check (by omega), hunknown]
      rfl
  | group k cs ih =>
    cases room with
    | zero =>
      cases herror
      exact ⟨_, root_mem_nodes level _, Node.offence?_of_lt (by simp; omega)⟩
    | succ room =>
      obtain ⟨t, ht, herror⟩ := Logged.exists_of_result_untilOther_eq_error herror
      have hroom : room + (level + 1) = maxDepth + 1 := by omega
      obtain ⟨n, hn, hoff⟩ := ih t ht hroom herror
      exact ⟨n, mem_nodes_group.mpr (Or.inr ⟨t, ht, hn⟩), hoff⟩

end Instruction

/-! ### Requirements -/

namespace Requirement

/-- All of a tree is known: there is a check under each name, and no node stands too deep. -/
structure Known (registry : Registry) (r : Requirement) : Prop where
  has : ∀ c ∈ r.root.conditions, registry.has c.name = true
  level_le : ∀ n ∈ r.root.nodes 1, n.level ≤ maxDepth

theorem known_iff {r : Requirement} :
    r.Known registry ↔ ∀ n ∈ r.root.nodes 1, n.offence? registry = none := by
  constructor
  · intro h n hn
    refine Node.offence?_eq_none_iff.mpr ⟨h.level_le n hn, ?_⟩
    intro c htree
    exact h.has c ((Instruction.mem_conditions_iff 1).mpr ⟨n, hn, htree⟩)
  · intro h
    refine ⟨?_, fun n hn => (Node.offence?_eq_none_iff.mp (h n hn)).1⟩
    intro c hc
    obtain ⟨n, hn, htree⟩ := (Instruction.mem_conditions_iff 1).mp hc
    exact (Node.offence?_eq_none_iff.mp (h n hn)).2 c htree

theorem error?_describe (r : Requirement) : error? (r.describe registry) =
    (r.root.nodes 1).findSome? (Node.offence? registry) :=
  Instruction.error?_describeWithin rfl .root r.root

theorem exists_describe_eq_ok_iff {r : Requirement} :
    (∃ text, r.describe registry = .ok text) ↔ r.Known registry := by
  rw [← error?_eq_none_iff, error?_describe, List.findSome?_eq_none_iff, known_iff]

/-- On a tree that is known there is a verdict on every value. -/
theorem Known.exists_verdict {r : Requirement} (h : r.Known registry) (value : Json) :
    ∃ verdict, (r.evaluate registry value).result = .ok verdict := by
  rw [← error?_eq_none_iff, Option.eq_none_iff_forall_ne_some]
  intro e he
  rw [error?_eq_some_iff] at he
  have hroom : maxDepth + 1 = maxDepth + 1 := rfl
  obtain ⟨n, hn, hoff⟩ := Instruction.exists_offence_of_evaluateWithin hroom he
  rw [known_iff.mp h n hn] at hoff
  cases hoff

end Requirement

end Proviso
