/-
  Proviso/Proofs/Instruction/Flat.lean
  ====================================
  **Trees with nothing left to simplify.**

  A requirement is flat if no group has a child joined like itself and no group below the root
  has a single child.  A step of simplification looks at the number of children before it
  dissolves some of them, so it may leave a group of one child where it dissolves empty groups.
  What it leaves to simplify below the root is therefore told apart from the root itself:
  a tree is `Tidy` as far as its root goes, and it is flat iff it is flat below (`FlatBelow`) and
  is no group of one child (`flat_iff`).
-/
import Proviso.Proofs.Instruction.Tree

namespace Proviso

namespace Instruction

/-! ### Every group of a tree -/

mutual

/-- Every group of a tree has a property of its connective and its children. -/
def Everywhere (p : Connective → List Instruction → Prop) : Instruction → Prop
  | .check _ => True
  | .group k cs => p k cs ∧ EverywhereIn p cs

def EverywhereIn (p : Connective → List Instruction → Prop) : List Instruction → Prop
  | [] => True
  | t :: rest => t.Everywhere p ∧ EverywhereIn p rest

end

variable {p : Connective → List Instruction → Prop} {k : Connective} {cs : List Instruction}

theorem everywhereIn_iff : EverywhereIn p cs ↔ ∀ t ∈ cs, t.Everywhere p := by
  induction cs with
  | nil => simp [EverywhereIn]
  | cons t rest ih => rw [EverywhereIn, ih, List.forall_mem_cons]

theorem everywhere_check (c : Condition) : (check c).Everywhere p := by
  rw [Everywhere]
  trivial

theorem everywhere_group : (group k cs).Everywhere p ↔ p k cs ∧ ∀ t ∈ cs, t.Everywhere p := by
  rw [Everywhere, everywhereIn_iff]

/-! ### Flat trees -/

/-- No child is joined by `k`. -/
def Apart (k : Connective) (cs : List Instruction) : Prop := ∀ t ∈ cs, t.joinedBy k = false

/-- No `all` group of a tree has an `all` child. -/
def AllApart (t : Instruction) : Prop := t.Everywhere fun k cs => k = .all → Apart .all cs

/-- Nothing is left to simplify in a tree below the root. -/
def Flat (t : Instruction) : Prop := t.Everywhere fun k cs => cs.length ≠ 1 ∧ Apart k cs

/-- Nothing is left to simplify in the children of a tree. -/
def FlatBelow (t : Instruction) : Prop := ∀ c ∈ t.children, c.Flat

/-- No child of a group is joined like the group itself, and an `any` group below the root has two
    children or more. -/
def Tidy : Place → Instruction → Prop
  | _, .check _ => True
  | place, .group k cs => Apart k cs ∧ (place = .nested → k = .any → 2 ≤ cs.length)

theorem flat_check (c : Condition) : (check c).Flat := everywhere_check c

theorem flat_group : (group k cs).Flat ↔ (cs.length ≠ 1 ∧ Apart k cs) ∧ ∀ t ∈ cs, t.Flat :=
  everywhere_group

theorem flatBelow_check (c : Condition) : (check c).FlatBelow := nofun

theorem Tidy.flat_iff {place : Place} {t : Instruction} (h : t.Tidy place) :
    t.Flat ↔ t.FlatBelow ∧ t.children.length ≠ 1 := by
  cases t with
  | check c => exact iff_of_true (flat_check c) ⟨flatBelow_check c, Nat.zero_ne_one⟩
  | group k cs =>
    rw [flat_group]
    constructor
    · rintro ⟨⟨hlength, -⟩, hflat⟩
      exact ⟨hflat, hlength⟩
    · rintro ⟨hflat, hlength⟩
      exact ⟨⟨hlength, h.1⟩, hflat⟩

theorem Tidy.two_le_length {t : Instruction} (h : t.Tidy .nested) (hk : t.joinedBy .any = true) :
    2 ≤ t.children.length := by
  rw [eq_group_of_joinedBy hk] at h
  exact h.2 rfl rfl

/-! ### Dissolving -/

/-- What holds of a row that is dissolved holds of the children of those that dissolve, and of the
    others themselves. -/
theorem forall_mem_dissolve_iff {q : Instruction → Prop} : (∀ t ∈ dissolve k cs, q t) ↔
    ∀ t ∈ cs, (t.joinedBy k = true → ∀ c ∈ t.children, q c) ∧ (t.joinedBy k = false → q t) := by
  constructor
  · intro h t ht
    constructor
    · intro hk c hc
      have hg : .group k t.children ∈ cs := eq_group_of_joinedBy hk ▸ ht
      exact h c (mem_dissolve.mpr (Or.inr ⟨t.children, hg, hc⟩))
    · intro hk
      exact h t (mem_dissolve.mpr (Or.inl ⟨ht, hk⟩))
  · intro h t ht
    rcases mem_dissolve.mp ht with ⟨ht, hk⟩ | ⟨ds, hg, ht⟩
    · exact (h t ht).2 hk
    · exact (h _ hg).1 (by simp [joinedBy_group]) t ht

theorem forall_mem_dissolve_concat_iff {q : Instruction → Prop} {w : Instruction}
    (hw : w.joinedBy k = false) :
    (∀ t ∈ dissolve k (cs ++ [w]), q t) ↔ (∀ t ∈ dissolve k cs, q t) ∧ q w := by
  rw [forall_mem_dissolve_iff, forall_mem_dissolve_iff, List.forall_mem_append,
    List.forall_mem_singleton]
  simp [hw]

theorem length_le_length_flatMap_children (h : ∀ t ∈ cs, t.children ≠ []) :
    cs.length ≤ (cs.flatMap children).length := by
  induction cs with
  | nil => exact Nat.le_refl _
  | cons t rest ih =>
    have hpos : 0 < t.children.length := List.length_pos_iff.mpr (h t List.mem_cons_self)
    have hrest := ih fun u hu => h u (List.mem_cons_of_mem t hu)
    rw [List.flatMap_cons, List.length_append, List.length_cons]
    omega

/-- A row only shrinks where it holds an empty group. -/
theorem length_le_length_dissolve (h : ∀ t ∈ cs, t.joinedBy k = true → t.children ≠ []) :
    cs.length ≤ (dissolve k cs).length := by
  have hjoined : ∀ t ∈ cs.filter (·.joinedBy k), t.children ≠ [] := by
    intro t ht
    obtain ⟨ht, hk⟩ := List.mem_filter.mp ht
    exact h t ht hk
  have hdissolved := length_le_length_flatMap_children hjoined
  have hsplit := (List.filter_append_perm (·.joinedBy k) cs).length_eq
  rw [List.length_append] at hsplit
  rw [dissolve, List.length_append]
  omega

section

variable (h : ∀ t ∈ cs, t.Tidy .nested)
include h

theorem apart_dissolve : Apart k (dissolve k cs) := by
  refine forall_mem_dissolve_iff.mpr fun t ht => ⟨?_, fun hk => hk⟩
  intro hk
  have htidy := h t ht
  rw [eq_group_of_joinedBy hk] at htidy
  exact htidy.1

/-- An `all` group of tidy trees: those that may have a single child dissolve. -/
theorem flat_dissolve_all_iff : (∀ t ∈ dissolve .all cs, t.Flat) ↔ ∀ t ∈ cs, t.FlatBelow := by
  rw [forall_mem_dissolve_iff]
  refine forall₂_congr fun t ht => ?_
  constructor
  · rintro ⟨hjoined, hother⟩
    cases hk : t.joinedBy .all with
    | true => exact hjoined hk
    | false => exact ((h t ht).flat_iff.mp (hother hk)).1
  · intro hflat
    refine ⟨fun _ => hflat, fun hk => (h t ht).flat_iff.mpr ⟨hflat, ?_⟩⟩
    cases t with
    | check c => exact Nat.zero_ne_one
    | group m ds =>
      cases m with
      | all => cases hk
      | any =>
        have hlength : 2 ≤ ds.length := (h _ ht).2 rfl rfl
        exact Nat.ne_of_gt hlength

/-- An `any` group of tidy trees: those that may have a single child stay. -/
theorem flat_dissolve_any_iff : (∀ t ∈ dissolve .any cs, t.Flat) ↔ ∀ t ∈ cs, t.Flat := by
  rw [forall_mem_dissolve_iff]
  refine forall₂_congr fun t ht => ?_
  constructor
  · rintro ⟨hjoined, hother⟩
    cases hk : t.joinedBy .any with
    | true =>
      have hlength := (h t ht).two_le_length hk
      exact (h t ht).flat_iff.mpr ⟨hjoined hk, by omega⟩
    | false => exact hother hk
  · intro hflat
    exact ⟨fun _ => ((h t ht).flat_iff.mp hflat).1, fun _ => hflat⟩

end

/-! ### A step of simplification -/

/-- Simplification never leaves an `all` group with an `all` child. -/
theorem allApart_flatten (place : Place) (h : ∀ t ∈ cs, t.AllApart) :
    ((group k cs).flatten place).AllApart := by
  have hchildren : ∀ t ∈ cs, t.joinedBy k = true →
      (k = .all → Apart .all t.children) ∧ ∀ c ∈ t.children, c.AllApart := by
    intro t ht hk
    have htree := h t ht
    rw [eq_group_of_joinedBy hk] at htree
    exact everywhere_group.mp htree
  rcases flatten_group place k cs with ⟨-, t, rfl, hflat⟩ | ⟨-, hflat⟩
  · rw [hflat]
    exact h t List.mem_cons_self
  · rw [hflat]
    refine everywhere_group.mpr ⟨?_, ?_⟩
    · rintro rfl
      exact forall_mem_dissolve_iff.mpr fun t ht => ⟨fun hk => (hchildren t ht hk).1 rfl, id⟩
    · refine forall_mem_dissolve_iff.mpr fun t ht => ⟨fun hk => ?_, fun _ => h t ht⟩
      exact (hchildren t ht hk).2

section

variable {place : Place} (h : ∀ t ∈ cs, t.Tidy .nested)
include h

theorem tidy_flatten (hne : k = .any → cs ≠ []) : ((group k cs).flatten place).Tidy place := by
  rcases flatten_group place k cs with ⟨rfl, t, rfl, hflat⟩ | ⟨hlength, hflat⟩
  · rw [hflat]
    exact h t List.mem_cons_self
  · rw [hflat]
    refine ⟨apart_dissolve h, ?_⟩
    rintro rfl rfl
    have hrow : cs.length ≤ (dissolve .any cs).length := by
      apply length_le_length_dissolve
      intro t ht hk hnil
      have htwo := (h t ht).two_le_length hk
      rw [hnil] at htwo
      exact absurd htwo (by decide)
    have hpos : 0 < cs.length := List.length_pos_iff.mpr (hne rfl)
    have hone : cs.length ≠ 1 := hlength rfl
    omega

theorem flatBelow_flatten_all_iff :
    ((group .all cs).flatten place).FlatBelow ↔ ∀ t ∈ cs, t.FlatBelow := by
  rcases flatten_group place .all cs with ⟨-, t, rfl, hflat⟩ | ⟨-, hflat⟩
  · rw [hflat, List.forall_mem_singleton]
  · rw [hflat]
    exact flat_dissolve_all_iff h

theorem flatBelow_flatten_any_iff :
    ((group .any cs).flatten place).FlatBelow ↔ (∀ t ∈ cs, t.FlatBelow) ∧
      ((place = .nested → cs.length ≠ 1) → ∀ t ∈ cs, t.children.length ≠ 1) := by
  rcases flatten_group place .any cs with ⟨rfl, t, rfl, hflat⟩ | ⟨hlength, hflat⟩
  · rw [hflat, List.forall_mem_singleton]
    exact (and_iff_left fun hne => absurd rfl (hne rfl)).symm
  · rw [hflat, imp_iff_right hlength, ← forall₂_and]
    refine (flat_dissolve_any_iff h).trans ?_
    exact forall₂_congr fun t ht => (h t ht).flat_iff

end

end Instruction

/-! ### Requirements -/

namespace Requirement

/-- Nothing is left to simplify: no group has a child joined like itself, and no group below the
    root has a single child. -/
def Flat (r : Requirement) : Prop :=
  Instruction.Apart r.connective r.children ∧ ∀ t ∈ r.children, t.Flat

theorem apart_check (k : Connective) (c : Condition) : Instruction.Apart k [.check c] :=
  List.forall_mem_singleton.mpr rfl

theorem allApart_ofInstruction {t : Instruction} (h : t.AllApart) :
    (ofInstruction t).root.AllApart := by
  cases t with
  | check c =>
    exact Instruction.everywhere_group.mpr
      ⟨fun _ => apart_check .all c, List.forall_mem_singleton.mpr h⟩
  | group k cs => exact h

/-- At the root a group may have any number of children. -/
theorem flat_ofInstruction_iff {t : Instruction} (h : t.Tidy .root) :
    (ofInstruction t).Flat ↔ t.FlatBelow := by
  cases t with
  | check c =>
    refine iff_of_true ⟨apart_check .all c, ?_⟩ (Instruction.flatBelow_check c)
    exact List.forall_mem_singleton.mpr (Instruction.flat_check c)
  | group k cs => exact and_iff_right h.1

end Requirement

end Proviso
