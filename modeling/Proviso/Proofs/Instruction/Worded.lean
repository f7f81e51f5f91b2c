/-
  Proviso/Proofs/Instruction/Worded.lean
  ======================================
  **When every part of a description says something.**

  A group is described by its children, joined by `or`, `||`, `&&` or commas, so a child that is
  described by the empty text leaves an operand out.  No check of the built-in registry has an
  empty text (`Registry.speaks_builtinWith`), and what joins texts that are not empty is not empty
  either (`join_ne_empty`).  An empty group is described by nothing, though.  Hence every part
  says something iff no group below the root is empty (`worded_iff`).
-/
import Proviso.Proofs.Instruction.Unambiguous
import Proviso.Proofs.Registry.Builtin

namespace Proviso

/-! ### Texts of checks -/

/-- Neither the check nor its opposite is worded by the empty text. -/
def Check.Speaks (check : Check) : Prop := ∀ negate args, check.wording negate args ≠ ""

/-- Every check of a registry has a text, and so has its opposite. -/
def Registry.Speaks (registry : Registry) : Prop :=
  ∀ name check, registry.get? name = some check → check.Speaks

namespace Check

theorem speaks_plain (passes : Json → List Json → Bool) {text : List Json → String}
    (h : ∀ args, text args ≠ "") : (plain passes text).Speaks := by
  intro negate args
  show negated (text args) negate ≠ ""
  cases negate with
  | false => exact h args
  | true => simp [negated]

theorem speaks_matchingWith {ε ρ : Type} (engine : Pattern.Engine ε ρ) :
    (matchingWith engine).Speaks := by
  have htext : ∀ args, matchingText args ≠ "" := by
    intro args
    unfold matchingText
    split <;> simp
  intro negate args
  exact speaks_plain (matchingWith engine).passes htext negate args

theorem speaks_absent : absent.Speaks := by
  intro negate args
  cases negate <;> simp [absent]

end Check

theorem Registry.speaks_builtinWith {ε ρ : Type} (engine : Pattern.Engine ε ρ) :
    (builtinWith engine).Speaks := by
  apply forall_get?_builtinWith
  apply forall_mem_builtinChecks (p := fun _ => Check.Speaks)
  case absent => exact Check.speaks_absent
  case matching => exact Check.speaks_matchingWith engine
  -- all others are worded by a text that begins with letters of its own
  all_goals exact Check.speaks_plain _ fun args => by simp

/-! ### Texts of groups -/

theorem parenthesized_ne_empty (text : String) : parenthesized text ≠ "" := by
  simp [parenthesized]

theorem alternatives_ne_empty (place : Place) (first second : String) (rest : List String) :
    alternatives place (first :: second :: rest) ≠ "" := by
  cases place with
  | root => cases rest <;> simp [alternatives]
  | nested => cases rest <;> exact parenthesized_ne_empty _

theorem jointly_ne_empty (place : Place) (first second : String) (rest : List String) :
    jointly place (first :: second :: rest) ≠ "" := by
  have hlength : 1 < (first :: second :: rest).length := by simp
  rw [jointly, if_pos (Or.inr hlength)]
  · exact parenthesized_ne_empty _
  · exact List.cons_ne_nil first (second :: rest)

/-- Joined texts are not empty, if there are any and none of them is. -/
theorem Connective.join_ne_empty (k : Connective) (place : Place) {parts : List String}
    (hne : parts ≠ []) (hparts : ∀ p ∈ parts, p ≠ "") : k.join place parts ≠ "" := by
  cases parts with
  | nil => exact absurd rfl hne
  | cons first rest =>
    have hfirst : first ≠ "" := hparts first List.mem_cons_self
    cases rest with
    | nil =>
      -- a single text stays as it is, or is put in parentheses
      cases k with
      | any => exact hfirst
      | all =>
        cases place with
        | root => simpa [join, jointly] using hfirst
        | nested => exact parenthesized_ne_empty _
    | cons second rest =>
      cases k with
      | any => exact alternatives_ne_empty place first second rest
      | all => exact jointly_ne_empty place first second rest

variable {registry : Registry}

namespace Instruction

theorem describeWithin_empty (room : Nat) (place : Place) (k : Connective) :
    (group k []).describeWithin registry (room + 1) place = .ok "" := by
  cases k <;> rfl

/-- **A tree without empty groups is not described by the empty text.** -/
theorem describeWithin_ne_empty (hregistry : registry.Speaks) {t : Instruction}
    (hfilled : t.Filled) (room : Nat) (place : Place) :
    t.describeWithin registry room place ≠ .ok "" := by
  intro h
  induction t generalizing room place with
  | check c =>
    cases room with
    | zero => cases h
    | succ room =>
      obtain ⟨check, hcheck, htext⟩ := Condition.describe_eq_ok_iff.mp h
      exact hregistry c.name check hcheck c.negate c.args htext
  | group k cs ih =>
    cases room with
    | zero => cases h
    | succ room =>
      rw [Filled, everywhere_group] at hfilled
      obtain ⟨parts, hparts, h⟩ := bind_eq_ok_iff.mp h
      rw [mapM_eq_ok_iff] at hparts
      have hne : parts ≠ [] := by
        rintro rfl
        exact hfilled.1 (List.forall₂_nil_right_iff.mp hparts)
      have hsaid : ∀ t ∈ cs, t.describeWithin registry room .nested ≠ .ok "" := by
        intro t ht
        exact ih t ht (hfilled.2 t ht) room .nested
      have hrow := (List.forall₂_and_left cs parts).mpr ⟨hsaid, hparts⟩
      refine k.join_ne_empty place hne (forall_mem_of_forall₂ (hrow.imp ?_)) (Except.ok.inj h)
      rintro t p ⟨ht, htext⟩ rfl
      exact ht htext

/-! ### Parts of descriptions -/

/-- No group below the root of a tree is empty. -/
def FilledBelow (t : Instruction) : Prop := ∀ u ∈ t.children, u.Filled

theorem Filled.below {t : Instruction} (h : t.Filled) : t.FilledBelow := by
  cases t with
  | check c => nofun
  | group k cs => exact (everywhere_group.mp h).2

theorem FilledBelow.of_mem_nodes {t : Instruction} {level : Nat} {n : Node}
    (h : t.FilledBelow) (hn : n ∈ t.nodes level) : n.tree.FilledBelow := by
  induction t generalizing level with
  | check c =>
    rw [nodes, List.mem_singleton] at hn
    rw [hn]
    exact h
  | group k cs ih =>
    rcases mem_nodes_group.mp hn with rfl | ⟨t, ht, hn⟩
    · exact h
    · exact ih t ht (h t ht).below hn

/-- The nodes below a node are nodes of the tree. -/
theorem mem_nodes_of_mem_children {t u : Instruction} {level : Nat} {n m : Node}
    (hn : n ∈ t.nodes level) (hu : u ∈ n.tree.children) (hm : m ∈ u.nodes (n.level + 1)) :
    m ∈ t.nodes level := by
  induction t generalizing level with
  | check c =>
    rw [nodes, List.mem_singleton] at hn
    rw [hn] at hu
    cases hu
  | group k cs ih =>
    rcases mem_nodes_group.mp hn with rfl | ⟨t, ht, hn⟩
    · exact mem_nodes_group.mpr (Or.inr ⟨u, hu, hm⟩)
    · exact mem_nodes_group.mpr (Or.inr ⟨t, ht, ih t ht hn⟩)

end Instruction

/-- Each child of a node is described, and not by the empty text. -/
def Node.Worded (registry : Registry) (n : Node) : Prop :=
  ∀ t ∈ n.tree.children, ∃ text,
    t.describeWithin registry (maxDepth - n.level) .nested = .ok text ∧ text ≠ ""

theorem Instruction.filledBelow_of_worded {level : Nat} {t : Instruction}
    (h : ∀ n ∈ t.nodes level, n.Worded registry) : t.FilledBelow := by
  induction t generalizing level with
  | check c => nofun
  | group k cs ih =>
    intro u hu
    have hchild : ∀ n ∈ u.nodes (level + 1), n.Worded registry := fun n hn =>
      h n (mem_nodes_group.mpr (Or.inr ⟨u, hu, hn⟩))
    have hbelow : u.FilledBelow := ih u hu hchild
    obtain ⟨text, htext, hne⟩ := h _ (root_mem_nodes level _) u hu
    cases u with
    | check c => exact everywhere_check c
    | group m ds =>
      refine everywhere_group.mpr ⟨?_, hbelow⟩
      rintro rfl
      -- an empty group is described by nothing, if there is room for it
      cases hroom : maxDepth - level with
      | zero =>
        rw [hroom] at htext
        cases htext
      | succ room =>
        rw [hroom, describeWithin_empty] at htext
        exact hne (Except.ok.inj htext).symm

namespace Requirement

/-- Every part of a description says something. -/
def Worded (registry : Registry) (r : Requirement) : Prop :=
  ∀ n ∈ r.root.nodes 1, n.Worded registry

/-- **Every part of a description says something iff no group below the root is empty.** -/
theorem worded_iff {r : Requirement} (hregistry : registry.Speaks) (hknown : r.Known registry) :
    r.Worded registry ↔ r.root.FilledBelow := by
  refine ⟨Instruction.filledBelow_of_worded, fun hfilled n hn t ht => ?_⟩
  have hsaid := Instruction.describeWithin_ne_empty hregistry (hfilled.of_mem_nodes hn t ht)
    (maxDepth - n.level) .nested
  have hroom : maxDepth - n.level + (n.level + 1) = maxDepth + 1 := by
    have hlevel := hknown.level_le n hn
    omega
  have hread : error? (t.describeWithin registry (maxDepth - n.level) .nested) = none := by
    rw [Instruction.error?_describeWithin hroom, List.findSome?_eq_none_iff]
    intro m hm
    exact known_iff.mp hknown m (Instruction.mem_nodes_of_mem_children hn ht hm)
  obtain ⟨text, htext⟩ := error?_eq_none_iff.mp hread
  refine ⟨text, htext, ?_⟩
  rintro rfl
  exact hsaid htext

end Requirement

end Proviso
