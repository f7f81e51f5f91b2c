/-
  Proviso/Proofs/Instruction/Simplification.lean
  ==============================================
  **One step of simplification on any tree.**

  A step is meant for a group whose children are simple, but it is taken on trees built by hand as
  well, whose children may be anything.  It keeps the conditions up to their order, adds no level,
  and where the tree and its simplification both have a verdict, it is the same one
  (`flatten_sound`).  The proviso is needed: simplification puts the children that dissolve behind
  the others, so an evaluation may come to an unknown name it did not come to before.
-/
import Proviso.Proofs.Instruction.Height
import Proviso.Proofs.Instruction.Meaning
import Proviso.Registry.Builtin

namespace Proviso.Instruction

theorem joinedBy_eq_true_iff {k : Connective} {t : Instruction} :
    t.joinedBy k = true ↔ t.connective? = some k := by
  rw [joinedBy, beq_iff_eq]

theorem filter_not_joinedBy (k : Connective) (cs : List Instruction) :
    cs.filter (!·.joinedBy k) = cs.filter fun t => t.connective? ≠ some k := by
  apply List.filter_congr
  intro t _
  rw [Bool.eq_iff_iff, Bool.not_eq_true', ← Bool.not_eq_true, joinedBy_eq_true_iff,
    decide_eq_true_iff]

theorem flatMap_children_filter_joinedBy (k : Connective) (cs : List Instruction) :
    (cs.filter (·.joinedBy k)).flatMap children =
      cs.flatMap fun t => if t.connective? = some k then t.children else [] := by
  induction cs with
  | nil => rfl
  | cons t rest ih =>
    rw [List.flatMap_cons, ← ih]
    by_cases hk : t.connective? = some k
    · rw [if_pos hk, List.filter_cons_of_pos (joinedBy_eq_true_iff.mpr hk), List.flatMap_cons]
    · have hother : ¬ t.joinedBy k = true := fun hjoined => hk (joinedBy_eq_true_iff.mp hjoined)
      rw [if_neg hk, List.filter_cons_of_neg hother, List.nil_append]

/-- First come the children that are joined otherwise, then the children of those joined alike. -/
theorem dissolve_eq (k : Connective) (cs : List Instruction) :
    dissolve k cs = cs.filter (fun t => t.connective? ≠ some k) ++
      cs.flatMap fun t => if t.connective? = some k then t.children else [] := by
  rw [dissolve, filter_not_joinedBy, flatMap_children_filter_joinedBy]

theorem connective?_flatten_root (t : Instruction) :
    (t.flatten .root).connective? = t.connective? := by
  cases t with
  | check c => rfl
  | group k cs => rw [flatten_root, connective?, connective?]

variable {registry : Registry} {value : Json}

/-- With a verdict on both, a tree and its simplification have the same. -/
theorem verdict_flatten {place : Place} {t : Instruction} {room room' : Nat} {b b' : Bool}
    (h : (t.evaluateWithin registry value room).result = .ok b)
    (h' : ((t.flatten place).evaluateWithin registry value room').result = .ok b') : b' = b := by
  have hσ := registry.assignment_agreesWith
  have hmeaning := holds_of_evaluateWithin hσ h
  have hmeaning' := holds_of_evaluateWithin hσ h'
  rw [holds_flatten, hmeaning] at hmeaning'
  exact hmeaning'.symm

/-- **A step of simplification is sound on any tree**, whether its children are simple or not.  It
    keeps the conditions up to their order and adds no level; where both the tree and its
    simplification have a verdict on a value, the verdicts are equal; at the root a group keeps its
    connective; and unless a group of one child gives way to that child, it keeps its connective and
    lists the children that are joined otherwise, followed by the children of the others. -/
theorem flatten_sound (place : Place) (t : Instruction) :
    (t.flatten place).conditions.Perm t.conditions ∧
    (t.flatten place).height ≤ t.height ∧
    (∀ (registry : Registry) (value : Json) (room : Nat) (b b' : Bool),
      (t.evaluateWithin registry value room).result = .ok b →
        ((t.flatten place).evaluateWithin registry value room).result = .ok b' → b' = b) ∧
    (place = .root → (t.flatten place).connective? = t.connective?) ∧
    ∀ k cs, t = .group k cs →
      (∀ only, place = .nested → cs = [only] → t.flatten place = only) ∧
      (place = .root ∨ cs.length ≠ 1 → t.flatten place =
        .group k (cs.filter (fun c => c.connective? ≠ some k) ++
          cs.flatMap fun c => if c.connective? = some k then c.children else [])) := by
  refine ⟨conditions_flatten_perm place t, height_flatten_le place t, ?_, ?_, ?_⟩
  · intro registry value room b b' h h'
    exact verdict_flatten h h'
  · rintro rfl
    exact connective?_flatten_root t
  · rintro k cs rfl
    constructor
    · rintro only rfl rfl
      exact flatten_nested_singleton k only
    · rw [← dissolve_eq]
      rintro (rfl | hlength)
      · exact flatten_root k cs
      · exact flatten_of_length_ne_one place k hlength

/-- A tree with an empty group, groups in groups and a check under an unknown name. -/
def untidy : Instruction :=
  .group .any [.group .any [.group .all [], .check ⟨"nowhere", [], false⟩], .group .all [],
    .group .any [.group .any []], .check ⟨"isString", [], true⟩]

theorem flatten_sound_untidy :
    (untidy.evaluateWithin .builtin (.str "x") 3).result = .ok true ∧
    ((untidy.flatten .nested).evaluateWithin .builtin (.str "x") 3).result = .ok true ∧
    (∀ b, ((untidy.flatten .nested).evaluateWithin .builtin (.str "x") 3).result = .ok b →
      b = true) ∧
    (untidy.flatten .root).connective? = some .any ∧
    (untidy.flatten .nested).children = [.group .all [], .check ⟨"isString", [], true⟩,
      .group .all [], .check ⟨"nowhere", [], false⟩, .group .any []] ∧
    (group .any [untidy]).flatten .nested = untidy := by
  have hsound := flatten_sound .nested untidy
  have hverdict : (untidy.evaluateWithin .builtin (.str "x") 3).result = .ok true := by
    with_unfolding_all rfl
  have hverdict' :
      ((untidy.flatten .nested).evaluateWithin .builtin (.str "x") 3).result = .ok true := by
    with_unfolding_all rfl
  refine ⟨hverdict, hverdict', fun b => hsound.2.2.1 _ _ _ _ b hverdict, ?_, ?_, ?_⟩
  · exact (flatten_sound .root untidy).2.2.2.1 rfl
  · exact congrArg children ((hsound.2.2.2.2 _ _ rfl).2 (Or.inr (by decide)))
  · exact ((flatten_sound .nested (.group .any [untidy])).2.2.2.2 _ _ rfl).1 _ rfl rfl

/-- Without a verdict on both there is nothing to compare: here simplification puts a check under an
    unknown name in front of the one that decides. -/
example :
    let t := group .any [.group .any [.check ⟨"isString", [], false⟩],
      .check ⟨"nowhere", [], false⟩]
    (t.evaluateWithin .builtin (.str "x") 3).result = .ok true ∧
    ((t.flatten .root).evaluateWithin .builtin (.str "x") 3).result =
      .error (.unknownCheck "nowhere") := by
  with_unfolding_all exact ⟨rfl, rfl⟩

end Proviso.Instruction
