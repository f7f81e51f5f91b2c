/-
  Proviso/Proofs/Instruction/Height.lean
  ======================================
  **How many levels a tree has, and who runs out of room for them.**

  Simplification never adds a level (`height_flatten_le`).  With room for all levels neither an
  evaluation nor a description goes too deep.  A description looks at every node, so where every
  name is registered it goes too deep iff there is no room for all levels
  (`describeWithin_eq_tooDeep_iff`); an evaluation may stop before it comes to the deepest level.
-/
import Proviso.Instruction.Wording
import Proviso.Proofs.Instruction.Tree
import Proviso.Proofs.Logged.Rows
import Proviso.Proofs.Registry.Lookup

namespace Proviso

namespace Instruction

/-! ### Levels -/

mutual

/-- The number of levels of a tree. -/
def height : Instruction → Nat
  | .check _ => 1
  | .group _ cs => heightOf cs + 1

def heightOf : List Instruction → Nat
  | [] => 0
  | t :: rest => max t.height (heightOf rest)

end

@[simp] theorem height_check (c : Condition) : (check c).height = 1 := by
  rw [height]

theorem height_group (k : Connective) (cs : List Instruction) :
    (group k cs).height = heightOf cs + 1 := by
  rw [height]

theorem height_pos (t : Instruction) : 0 < t.height := by
  cases t with
  | check c => rw [height]; exact Nat.one_pos
  | group k cs => rw [height]; exact Nat.succ_pos _

/-- A bound on a row is a bound on each of its trees. -/
theorem heightOf_le_iff {cs : List Instruction} {n : Nat} :
    heightOf cs ≤ n ↔ ∀ t ∈ cs, t.height ≤ n := by
  induction cs with
  | nil => simp [heightOf]
  | cons t rest ih => rw [heightOf, Nat.max_le, ih, List.forall_mem_cons]

theorem heightOf_append (cs ds : List Instruction) :
    heightOf (cs ++ ds) = max (heightOf cs) (heightOf ds) := by
  induction cs with
  | nil => simp [heightOf]
  | cons t rest ih => rw [List.cons_append, heightOf, heightOf, ih, Nat.max_assoc]

theorem heightOf_eq_zero_iff {cs : List Instruction} : heightOf cs = 0 ↔ cs = [] := by
  cases cs with
  | nil => simp [heightOf]
  | cons t rest =>
    have hpos := t.height_pos
    simp only [heightOf, reduceCtorEq, iff_false]
    omega

theorem height_group_le_succ_iff {k : Connective} {cs : List Instruction} {n : Nat} :
    (group k cs).height ≤ n + 1 ↔ ∀ t ∈ cs, t.height ≤ n := by
  rw [height_group, Nat.succ_le_succ_iff, heightOf_le_iff]

theorem height_lt_of_mem {k : Connective} {cs : List Instruction} {t : Instruction}
    (h : t ∈ cs) : t.height < (group k cs).height := by
  rw [height_group]
  exact Nat.lt_succ_of_le (heightOf_le_iff.mp (Nat.le_refl _) t h)

/-! ### Simplification -/

theorem height_dissolve_le (k : Connective) (cs : List Instruction) :
    heightOf (dissolve k cs) ≤ heightOf cs := by
  rw [heightOf_le_iff]
  intro t ht
  rcases mem_dissolve.mp ht with ⟨ht, -⟩ | ⟨ds, hg, ht⟩
  · exact heightOf_le_iff.mp (Nat.le_refl _) t ht
  · -- the children of a dissolved child come up one level
    have hbelow : t.height < (group k ds).height := height_lt_of_mem ht
    have hrow : (group k ds).height ≤ heightOf cs := heightOf_le_iff.mp (Nat.le_refl _) _ hg
    omega

theorem height_flatten_le (place : Place) (t : Instruction) :
    (t.flatten place).height ≤ t.height := by
  cases t with
  | check c => exact Nat.le_refl _
  | group k cs =>
    rcases flatten_group place k cs with ⟨-, t, rfl, h⟩ | ⟨-, h⟩
    · rw [h]
      exact Nat.le_of_lt (height_lt_of_mem List.mem_cons_self)
    · rw [h, height_group, height_group]
      exact Nat.succ_le_succ (height_dissolve_le k cs)

end Instruction

/-! ### Evaluation -/

variable {registry : Registry} {value : Json}

/-- The only error of a lookup shows the name it was asked for. -/
theorem Registry.find_eq_error {name : String} {e : Error} (h : registry.find name = .error e) :
    registry.has name = false ∧ e = .unknownCheck name := by
  obtain ⟨hget, rfl⟩ := find_eq_error_iff.mp h
  exact ⟨by rw [has, hget]; rfl, rfl⟩

theorem Condition.evaluate_eq_error {c : Condition} {e : Error}
    (h : (c.evaluate registry value).result = .error e) :
    registry.has c.name = false ∧ e = .unknownCheck c.name := by
  rcases Logged.result_bind_eq_error_iff.mp h with h | ⟨check, -, h⟩
  · exact Registry.find_eq_error h
  · -- a check that was found has a verdict
    cases h

/-- An evaluation fails below the last level there is room for, or on an unknown name. -/
theorem Instruction.evaluateWithin_eq_error {room : Nat} {t : Instruction} {e : Error}
    (h : (t.evaluateWithin registry value room).result = .error e) :
    (room < t.height ∧ e = .tooDeep) ∨
      ∃ c ∈ t.conditions, registry.has c.name = false ∧ e = .unknownCheck c.name := by
  induction t generalizing room with
  | check c =>
    cases room with
    | zero => exact Or.inl ⟨height_pos _, (Except.error.inj h).symm⟩
    | succ room => exact Or.inr ⟨c, List.mem_singleton_self c, Condition.evaluate_eq_error h⟩
  | group k cs ih =>
    cases room with
    | zero => exact Or.inl ⟨height_pos _, (Except.error.inj h).symm⟩
    | succ room =>
      obtain ⟨t, ht, h⟩ := Logged.exists_of_result_untilOther_eq_error h
      rcases ih t ht h with ⟨hlt, he⟩ | ⟨c, hc, he⟩
      · have hgroup : t.height < (group k cs).height := height_lt_of_mem ht
        exact Or.inl ⟨by omega, he⟩
      · exact Or.inr ⟨c, mem_conditions_group.mpr ⟨t, ht, hc⟩, he⟩

theorem Instruction.evaluateWithin_ne_tooDeep {room : Nat} {t : Instruction}
    (hroom : t.height ≤ room) :
    (t.evaluateWithin registry value room).result ≠ .error .tooDeep := by
  intro h
  rcases evaluateWithin_eq_error h with ⟨hlt, -⟩ | ⟨c, -, -, he⟩
  · exact absurd hroom (Nat.not_le_of_lt hlt)
  · cases he

/-! ### Description -/

theorem Condition.describe_eq_error {c : Condition} {e : Error}
    (h : c.describe registry = .error e) :
    registry.has c.name = false ∧ e = .unknownCheck c.name := by
  rcases bind_eq_error_iff.mp h with h | ⟨check, -, h⟩
  · exact Registry.find_eq_error h
  · cases h

namespace Instruction

/-- A description fails below the last level there is room for, or on an unknown name. -/
theorem describeWithin_eq_error {room : Nat} {place : Place} {t : Instruction} {e : Error}
    (h : t.describeWithin registry room place = .error e) :
    (room < t.height ∧ e = .tooDeep) ∨
      ∃ c ∈ t.conditions, registry.has c.name = false ∧ e = .unknownCheck c.name := by
  induction t generalizing room place with
  | check c =>
    cases room with
    | zero => exact Or.inl ⟨height_pos _, (Except.error.inj h).symm⟩
    | succ room => exact Or.inr ⟨c, List.mem_singleton_self c, Condition.describe_eq_error h⟩
  | group k cs ih =>
    cases room with
    | zero => exact Or.inl ⟨height_pos _, (Except.error.inj h).symm⟩
    | succ room =>
      rcases bind_eq_error_iff.mp h with h | ⟨parts, -, h⟩
      · obtain ⟨t, ht, h⟩ := exists_of_mapM_eq_error h
        rcases ih t ht h with ⟨hlt, he⟩ | ⟨c, hc, he⟩
        · have hgroup : t.height < (group k cs).height := height_lt_of_mem ht
          exact Or.inl ⟨by omega, he⟩
        · exact Or.inr ⟨c, mem_conditions_group.mpr ⟨t, ht, hc⟩, he⟩
      · cases h

theorem describeWithin_ne_tooDeep {room : Nat} {place : Place} {t : Instruction}
    (hroom : t.height ≤ room) : t.describeWithin registry room place ≠ .error .tooDeep := by
  intro h
  rcases describeWithin_eq_error h with ⟨hlt, -⟩ | ⟨c, -, -, he⟩
  · exact absurd hroom (Nat.not_le_of_lt hlt)
  · cases he

/-- A description that is given has been to every node. -/
theorem of_describeWithin_eq_ok {room : Nat} {place : Place} {t : Instruction} {text : String}
    (h : t.describeWithin registry room place = .ok text) :
    t.height ≤ room ∧ ∀ c ∈ t.conditions, registry.has c.name = true := by
  induction t generalizing room place text with
  | check c =>
    cases room with
    | zero => cases h
    | succ room =>
      obtain ⟨check, hfind, -⟩ := bind_eq_ok_iff.mp h
      refine ⟨Nat.succ_le_succ (Nat.zero_le room), fun d hd => ?_⟩
      rw [List.mem_singleton.mp hd]
      exact Registry.has_iff.mpr ⟨check, hfind⟩
  | group k cs ih =>
    cases room with
    | zero => cases h
    | succ room =>
      obtain ⟨parts, hparts, -⟩ := bind_eq_ok_iff.mp h
      have hall : ∀ t ∈ cs, t.height ≤ room ∧ ∀ c ∈ t.conditions, registry.has c.name = true := by
        intro t ht
        obtain ⟨part, hpart⟩ := exists_of_mem_of_mapM_eq_ok hparts ht
        exact ih t ht hpart
      refine ⟨height_group_le_succ_iff.mpr fun t ht => (hall t ht).1, fun c hc => ?_⟩
      obtain ⟨t, ht, hc⟩ := mem_conditions_group.mp hc
      exact (hall t ht).2 c hc

/-- With a check under each name, a description goes too deep iff there is no room for all
    levels. -/
theorem describeWithin_eq_tooDeep_iff {room : Nat} {place : Place} {t : Instruction}
    (hknown : ∀ c ∈ t.conditions, registry.has c.name = true) :
    t.describeWithin registry room place = .error .tooDeep ↔ room < t.height := by
  constructor
  · intro h
    by_contra hroom
    exact describeWithin_ne_tooDeep (Nat.le_of_not_lt hroom) h
  · intro hlt
    cases h : t.describeWithin registry room place with
    | ok text => exact absurd (of_describeWithin_eq_ok h).1 (Nat.not_le_of_lt hlt)
    | error e =>
      rcases describeWithin_eq_error h with ⟨-, rfl⟩ | ⟨c, hc, hunknown, -⟩
      · rfl
      · rw [hknown c hc] at hunknown
        cases hunknown

end Instruction

/-! ### Requirements -/

namespace Requirement

/-- Nothing that is done with the requirement goes too deep, whatever is registered and whatever
    the value is. -/
def Fits (r : Requirement) : Prop :=
  ∀ registry value, (r.evaluate registry value).result ≠ .error .tooDeep ∧
    r.describe registry ≠ .error .tooDeep

/-- **A requirement fits iff its tree does**: a description with all names registered looks at
    every level. -/
theorem fits_iff {r : Requirement} : r.Fits ↔ r.root.height ≤ maxDepth := by
  constructor
  · intro hfits
    obtain ⟨registry, hknown⟩ := Registry.exists_forall_has (r.root.conditions.map (·.name))
    by_contra hlt
    refine (hfits registry .null).2 ((Instruction.describeWithin_eq_tooDeep_iff ?_).mpr ?_)
    · intro c hc
      exact hknown c.name (List.mem_map_of_mem hc)
    · exact Nat.lt_of_not_le hlt
  · intro hroom registry value
    exact ⟨Instruction.evaluateWithin_ne_tooDeep hroom, Instruction.describeWithin_ne_tooDeep hroom⟩

theorem height_root_ofInstruction_le (t : Instruction) :
    (ofInstruction t).root.height ≤ max 2 t.height := by
  cases t with
  | check c => exact Nat.le_max_left _ _
  | group k cs => exact Nat.le_max_right _ _

end Requirement

end Proviso
