/-
  Proviso/Proofs/Draft/Alternatives.lean
  ======================================
  **What the alternatives of a written instruction decide.**

  Only alternatives can leave something behind that reading does not simplify: the group of the
  demands is dissolved into its parent or is its only child, while alternatives that stand beside
  other demands keep a group of their own, and `all` groups stay among alternatives.  So what goes
  wrong in a tree is told on the written instruction, where each position answers for its own
  alternatives.

  A property of trees that one step of reading passes on, up to a condition on the alternatives of
  that step, holds of the tree iff the condition holds at every position
  (`DecidedByAlternatives.toldAtPositions`).
-/
import Proviso.Proofs.Draft.Positions

namespace Proviso.Draft

/-- The alternatives of an instruction itself satisfy `Q`, which is told besides how many other
    demands there are. -/
def AlternativesSatisfy (Q : Place → Nat → List Json → Prop) (place : Place) : Json → Prop
  | .arr items => Q place 0 items
  | .obj members => isShorthand members = false → ∀ all any, listed members = .ok (all, any) →
      Q place (all.length + (implicitConditions members).length) any
  | _ => True

/-- With `A` at hand, `B` passes from what a step of reading combines to the result and back, iff
    the alternatives satisfy `Q`. -/
structure DecidedByAlternatives (A : Place → Instruction → Prop) (B : Instruction → Prop)
    (Q : Place → Nat → List Json → Prop) : Prop where
  check : ∀ place c, A place (.check c) ∧ B (.check c)
  absent : A .root (.group .all []) ∧ B (.group .all [])
  combine : ∀ place alls any anys,
    (∀ t ∈ alls, A .nested t) → (∀ t ∈ anys, A .nested t) → List.Forall₂ Reads any anys →
      A place ((combine alls anys).flatten place) ∧ (B ((combine alls anys).flatten place) ↔
        ((∀ t ∈ alls, B t) ∧ ∀ t ∈ anys, B t) ∧ Q place alls.length any)

section

variable {A : Place → Instruction → Prop} {B : Instruction → Prop}
  {Q : Place → Nat → List Json → Prop}

variable (A B Q) in
/-- The tree has `A`, and `B` iff `Q` holds of the alternatives at every position. -/
def ToldAtPositions (place : Place) (j : Json) (t : Instruction) : Prop :=
  A place t ∧ ∀ level, B t ↔ AlternativesSatisfy Q place j ∧
    ∀ p ∈ (positions level j).tail, AlternativesSatisfy Q .nested p.value

theorem alternativesSatisfy_obj_iff {place : Place} {members : List (String × Json)}
    {all any : List Json} (hs : isShorthand members = false)
    (hl : listed members = .ok (all, any)) : AlternativesSatisfy Q place (.obj members) ↔
      Q place (all.length + (implicitConditions members).length) any := by
  refine ⟨fun h => h hs all any hl, fun h _ all' any' hl' => ?_⟩
  rw [hl] at hl'
  cases hl'
  exact h

theorem toldAtPositions_row {items : List Json} {ts : List Instruction}
    (h : List.Forall₂ (ToldAtPositions A B Q .nested) items ts) :
    (∀ t ∈ ts, A .nested t) ∧ ∀ level, (∀ t ∈ ts, B t) ↔
      ∀ p ∈ positionsOf level items, AlternativesSatisfy Q .nested p.value := by
  induction h with
  | nil => simp [positionsOf]
  | @cons i t rest us hi _ ih =>
    obtain ⟨ht, hself⟩ := hi
    obtain ⟨hts, hrest⟩ := ih
    refine ⟨List.forall_mem_cons.mpr ⟨ht, hts⟩, fun level => ?_⟩
    obtain ⟨below, hpos⟩ := exists_positions_eq_cons level i
    have hself := hself level
    rw [hpos, List.tail_cons] at hself
    rw [List.forall_mem_cons, positionsOf, List.forall_mem_append, hpos, List.forall_mem_cons,
      hself, hrest level]

namespace DecidedByAlternatives

variable (hdec : DecidedByAlternatives A B Q)
include hdec

theorem toldAtPositions_check {place : Place} {j : Json} {c : Condition}
    (hself : AlternativesSatisfy Q place j) (hbelow : ∀ level, (positions level j).tail = []) :
    ToldAtPositions A B Q place j (.check c) := by
  obtain ⟨ha, hb⟩ := hdec.check place c
  refine ⟨ha, fun level => iff_of_true hb ⟨hself, ?_⟩⟩
  rw [hbelow level]
  exact List.forall_mem_nil _

theorem forall_mem_implicitConditions (members : List (String × Json)) :
    ∀ t ∈ implicitConditions members, A .nested t ∧ B t := by
  intro t ht
  obtain ⟨m, -, rfl⟩ := List.mem_map.mp ht
  exact hdec.check .nested _

theorem toldAtPositions_of_spells {place : Place} {j : Json} {t : Instruction}
    (h : Spells (fun j t => Reads j t ∧ ToldAtPositions A B Q .nested j t) place j t) :
    ToldAtPositions A B Q place j t := by
  have hsplit : ∀ {items : List Json} {ts : List Instruction},
      List.Forall₂ (fun j t => Reads j t ∧ ToldAtPositions A B Q .nested j t) items ts →
        List.Forall₂ Reads items ts ∧ List.Forall₂ (ToldAtPositions A B Q .nested) items ts :=
    fun hrow => ⟨hrow.imp fun _ _ => And.left, hrow.imp fun _ _ => And.right⟩
  cases h with
  | name s => exact hdec.toldAtPositions_check trivial fun _ => rfl
  | absent =>
    obtain ⟨ha, hb⟩ := hdec.absent
    exact ⟨ha, fun _ => iff_of_true hb ⟨trivial, List.forall_mem_nil _⟩⟩
  | null => exact hdec.toldAtPositions_check trivial fun _ => rfl
  | bool b => exact hdec.toldAtPositions_check trivial fun _ => rfl
  | num n => exact hdec.toldAtPositions_check trivial fun _ => rfl
  | @list _ items ts hitems =>
    obtain ⟨hreads, hitems⟩ := hsplit hitems
    obtain ⟨hts, hrow⟩ := toldAtPositions_row hitems
    obtain ⟨ha, hb⟩ := hdec.combine place [] items ts (List.forall_mem_nil _) hts hreads
    refine ⟨ha, fun level => ?_⟩
    rw [hb, and_iff_right (List.forall_mem_nil _), hrow (level + 1), positions, List.tail_cons,
      and_comm]
    rfl
  | shorthand hs hc =>
    refine hdec.toldAtPositions_check (fun hnot => ?_) fun level => ?_
    · rw [hs] at hnot
      cases hnot
    · rw [positions_of_isShorthand hs, List.tail_cons]
  | @object _ members all any alls anys hs hl hall hany =>
    obtain ⟨hreads, hall⟩ := hsplit hall
    obtain ⟨hreads', hany⟩ := hsplit hany
    obtain ⟨halls, hrow⟩ := toldAtPositions_row hall
    obtain ⟨hanys, hrow'⟩ := toldAtPositions_row hany
    -- the checks that keys name are demands, and no positions
    have himplicit := hdec.forall_mem_implicitConditions members
    have htrees : ∀ t ∈ alls ++ implicitConditions members, A .nested t :=
      List.forall_mem_append.mpr ⟨halls, fun t ht => (himplicit t ht).1⟩
    obtain ⟨ha, hb⟩ := hdec.combine place _ any anys htrees hanys hreads'
    refine ⟨ha, fun level => ?_⟩
    rw [hb, List.forall_mem_append, and_iff_left fun t ht => (himplicit t ht).2, hrow (level + 1),
      hrow' (level + 1), List.length_append, ← hreads.length_eq,
      alternativesSatisfy_obj_iff hs hl, positions_obj hs hl, List.tail_cons,
      List.forall_mem_append, and_comm]

/-- **What alternatives decide is decided at the positions.** -/
theorem toldAtPositions {room : Nat} {place : Place} {j : Json} {t : Instruction}
    (h : (normalizeValue room place j).result = .ok t) : ToldAtPositions A B Q place j t := by
  refine (normalizeValue_induction (P := fun room place j t =>
    (normalizeValue room place j).result = .ok t ∧ ToldAtPositions A B Q place j t) ?_ h).2
  intro room place j t hspells
  refine ⟨normalizeValue_succ_eq_ok_iff.mpr (hspells.mono fun _ _ => And.left), ?_⟩
  apply hdec.toldAtPositions_of_spells
  exact hspells.mono fun _ _ hread => ⟨⟨room, hread.1⟩, hread.2⟩

end DecidedByAlternatives

end

end Proviso.Draft
