/-
  Proviso/Proofs/Instruction/Dual.lean
  ====================================
  **The dual of a tree**: every group with the other connective, every condition as its opposite.

  The two connectives stop a row at opposite verdicts, and have opposite verdicts for an empty one.
  So the dual is evaluated like the tree, step by step and with every verdict turned
  (`evaluateWithin_dual`).  That is more than the law of De Morgan for verdicts: the same checks
  are run in the same order, both runs stop at the same child, and if one fails then the other
  fails with the same error.
-/
import Proviso.Instruction.Verdict
import Proviso.Proofs.Instruction.Tree
import Proviso.Proofs.Logged.Invocations

namespace Proviso

/-! ### Runs with every verdict turned -/

def Event.opposite : Event → Event
  | .evaluated c passed => .evaluated c.opposite !passed
  | e => e

theorem Event.condition?_opposite (e : Event) :
    e.opposite.condition? = e.condition?.map Condition.opposite := by
  cases e <;> rfl

namespace Logged

variable {ε α β : Type}

/-- The computation with every verdict turned, those on the way and the one in the end. -/
def opposite (x : Logged ε Bool) : Logged ε Bool :=
  ⟨x.events.map Event.opposite, x.result.map (!·)⟩

theorem opposite_bind (x : Logged ε Bool) {f g : Bool → Logged ε Bool}
    (h : ∀ b, g (!b) = (f b).opposite) : x.opposite >>= g = (x >>= f).opposite := by
  obtain ⟨events, result⟩ := x
  cases result with
  | error e => rfl
  | ok b =>
    show (⟨events.map Event.opposite ++ (g !b).events, (g !b).result⟩ : Logged ε Bool) =
      ⟨(events ++ (f b).events).map Event.opposite, (f b).result.map (!·)⟩
    simp only [h, opposite, List.map_append]

/-- A row of turned members stops where the row itself does. -/
theorem untilOther_opposite {f : α → Logged ε Bool} {g : β → Logged ε Bool} {turn : α → β}
    {as : List α} (h : ∀ a ∈ as, g (turn a) = (f a).opposite) (neutral : Bool) :
    untilOther (!neutral) g (as.map turn) = (untilOther neutral f as).opposite := by
  induction as with
  | nil => rfl
  | cons a rest ih =>
    rw [List.forall_mem_cons] at h
    rw [List.map_cons, untilOther, untilOther, h.1]
    apply opposite_bind
    intro verdict
    by_cases hv : verdict = neutral
    · simp only [hv, if_true, ih h.2]
    · have hturned : (!verdict) ≠ !neutral := by simpa using hv
      rw [if_neg hturned, if_neg hv]
      rfl

theorem result_opposite_eq_ok_iff {x : Logged ε Bool} {b : Bool} :
    x.opposite.result = .ok (!b) ↔ x.result = .ok b := by
  obtain ⟨events, result⟩ := x
  cases result <;> simp [opposite, Except.map]

theorem result_opposite_eq_error_iff {x : Logged ε Bool} {e : ε} :
    x.opposite.result = .error e ↔ x.result = .error e := by
  obtain ⟨events, result⟩ := x
  cases result <;> simp [opposite, Except.map]

theorem invocations_opposite (x : Logged ε Bool) :
    x.opposite.invocations = x.invocations.map Condition.opposite := by
  simp [invocations, opposite, List.filterMap_map, List.map_filterMap,
    Event.condition?_opposite]

end Logged

/-! ### Conditions -/

variable {registry : Registry} {value : Json}

namespace Condition

theorem evaluate_opposite (c : Condition) :
    c.opposite.evaluate registry value = (c.evaluate registry value).opposite := by
  cases hfind : registry.find c.name with
  | error e =>
    have hopposite : registry.find c.opposite.name = .error e := hfind
    rw [evaluate, evaluate, hopposite, hfind]
    rfl
  | ok check =>
    have hopposite : registry.find c.opposite.name = .ok check := hfind
    -- the check is asked the same, and its remarks hold no verdict
    have hverdict : (check.passes value c.args != !c.negate) =
        !(check.passes value c.args != c.negate) := by simp
    have hremarks : ((check.remarks value c.args).map Event.remarked).map Event.opposite =
        (check.remarks value c.args).map .remarked := by
      rw [List.map_map]
      rfl
    rw [evaluate_of_find hopposite, evaluate_of_find hfind, Logged.opposite, List.map_append,
      hremarks]
    simp only [opposite, hverdict]
    rfl

end Condition

namespace Instruction

/-! ### Trees -/

mutual

def dual : Instruction → Instruction
  | .check c => .check c.opposite
  | .group k cs => .group k.dual (dualEach cs)

def dualEach : List Instruction → List Instruction
  | [] => []
  | t :: rest => t.dual :: dualEach rest

end

theorem dual_group (k : Connective) (cs : List Instruction) :
    (group k cs).dual = .group k.dual (cs.map dual) := by
  have hrow : dualEach cs = cs.map dual := by
    induction cs with
    | nil => rfl
    | cons t rest ih => rw [dualEach, ih, List.map_cons]
  rw [dual, hrow]

@[simp] theorem dual_dual (t : Instruction) : t.dual.dual = t := by
  induction t with
  | check c => simp [dual]
  | group k cs ih =>
    have hrow : cs.map (dual ∘ dual) = cs := (List.map_congr_left ih).trans (List.map_id' cs)
    rw [dual_group, dual_group, List.map_map, Connective.dual_dual, hrow]

/-- **The dual is evaluated like the tree, with every verdict turned.** -/
theorem evaluateWithin_dual (room : Nat) (t : Instruction) :
    t.dual.evaluateWithin registry value room =
      (t.evaluateWithin registry value room).opposite := by
  induction t generalizing room with
  | check c =>
    cases room with
    | zero => rfl
    | succ room => exact c.evaluate_opposite
  | group k cs ih =>
    cases room with
    | zero => rw [dual_group]; rfl
    | succ room =>
      rw [dual_group, evaluateWithin, evaluateWithin, Connective.neutral_dual]
      exact Logged.untilOther_opposite (fun t ht => ih t ht room) k.neutral

/-- **A tree and its dual are two readings of one run.**  Under every registry and on every value
    the dual has the opposite verdict or the same error, and it runs the same checks in the same
    order, for the opposite conditions. -/
theorem evaluate_dual (registry : Registry) (t : Instruction) (value : Json) :
    (∀ b, (t.dual.evaluate registry value).result = .ok (!b) ↔
      (t.evaluate registry value).result = .ok b) ∧
    (∀ e, (t.dual.evaluate registry value).result = .error e ↔
      (t.evaluate registry value).result = .error e) ∧
    (t.dual.evaluate registry value).invocations =
      (t.evaluate registry value).invocations.map Condition.opposite := by
  have hrun : t.dual.evaluate registry value = (t.evaluate registry value).opposite :=
    evaluateWithin_dual maxDepth t
  rw [hrun]
  refine ⟨?_, ?_, Logged.invocations_opposite _⟩
  · intro b
    exact Logged.result_opposite_eq_ok_iff
  · intro e
    exact Logged.result_opposite_eq_error_iff

end Instruction

end Proviso
