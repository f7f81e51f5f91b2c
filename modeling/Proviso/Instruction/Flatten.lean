/-
  Proviso/Instruction/Flatten.lean
  ================================
  **Simplifying a freshly built group** whose children are simple already.

  Below the root a group with one child is that child.  Otherwise the children joined like the
  group itself are dissolved into it: first come the children that stay, then the children of
  the dissolved ones.
-/
import Proviso.Instruction.Basic

namespace Proviso

/-- Whether a position is the root of an instruction or lies below it. -/
inductive Place where
  | root | nested
  deriving DecidableEq, Repr

namespace Instruction

/-- Whether the instruction is a group with the connective `k`. -/
def joinedBy (k : Connective) (t : Instruction) : Bool := t.connective? == some k

/-- The children of a group with connective `k`, where those joined alike are dissolved. -/
def dissolve (k : Connective) (cs : List Instruction) : List Instruction :=
  cs.filter (!·.joinedBy k) ++ (cs.filter (·.joinedBy k)).flatMap children

/-- One step of simplification. -/
def flatten (place : Place) : Instruction → Instruction
  | .check c => .check c
  | .group k cs =>
    match place, cs with
    | .nested, [only] => only
    | _, _ => .group k (dissolve k cs)

/-! ### What the step does to each shape -/

@[simp] theorem flatten_check (place : Place) (c : Condition) :
    flatten place (.check c) = .check c := rfl

@[simp] theorem flatten_root (k : Connective) (cs : List Instruction) :
    flatten .root (.group k cs) = .group k (dissolve k cs) := rfl

@[simp] theorem flatten_nested_singleton (k : Connective) (t : Instruction) :
    flatten .nested (.group k [t]) = t := rfl

theorem flatten_of_length_ne_one (place : Place) (k : Connective) {cs : List Instruction}
    (h : cs.length ≠ 1) : flatten place (.group k cs) = .group k (dissolve k cs) := by
  match place, cs, h with
  | .root, _, _ => rfl
  | .nested, [], _ => rfl
  | .nested, _ :: _ :: _, _ => rfl

end Instruction

end Proviso
