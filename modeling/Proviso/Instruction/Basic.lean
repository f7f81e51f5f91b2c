/-
  Proviso/Instruction/Basic.lean
  ==============================
  **Instruction trees**: conditions joined by "all of" and "any of".

  A condition applies a named check to arguments, or asks for the opposite.  A group joins
  children by a connective; an empty group has the connective's neutral verdict.  A requirement
  is a tree whose root is a group, the form in which instructions are evaluated and described.
-/
import Proviso.Json.Equality

namespace Proviso

/-- A named check applied to arguments, or its opposite. -/
structure Condition where
  name : String
  args : List Json
  negate : Bool
  deriving Inhabited, Repr

/-- The opposite condition. -/
def Condition.opposite (c : Condition) : Condition := { c with negate := !c.negate }

@[simp] theorem Condition.opposite_opposite (c : Condition) : c.opposite.opposite = c := by
  simp [opposite]

/-- How the children of a group are joined. -/
inductive Connective where
  | all | any
  deriving DecidableEq, Inhabited, Repr

namespace Connective

/-- The verdict of an empty group, and the verdict that lets a group go on to its next child. -/
def neutral : Connective → Bool
  | .all => true
  | .any => false

/-- The other connective. -/
def dual : Connective → Connective
  | .all => .any
  | .any => .all

def text : Connective → String
  | .all => "all"
  | .any => "any"

@[simp] theorem dual_dual (k : Connective) : k.dual.dual = k := by
  cases k <;> rfl

@[simp] theorem neutral_dual (k : Connective) : k.dual.neutral = !k.neutral := by
  cases k <;> rfl

end Connective

/-- A tree of conditions. -/
inductive Instruction where
  | check (c : Condition)
  | group (k : Connective) (children : List Instruction)
  deriving Inhabited, Repr

namespace Instruction

def connective? : Instruction → Option Connective
  | .check _ => none
  | .group k _ => some k

/-- The children of a group; a condition has none. -/
def children : Instruction → List Instruction
  | .check _ => []
  | .group _ cs => cs

def isCheck : Instruction → Bool
  | .check _ => true
  | .group _ _ => false

mutual

/-- The conditions of a tree, from left to right. -/
def conditions : Instruction → List Condition
  | .check c => [c]
  | .group _ cs => conditionsOf cs

def conditionsOf : List Instruction → List Condition
  | [] => []
  | t :: rest => t.conditions ++ conditionsOf rest

end

mutual

/-- The number of conditions in a tree. -/
def countChecks : Instruction → Nat
  | .check _ => 1
  | .group _ cs => countChecksOf cs

def countChecksOf : List Instruction → Nat
  | [] => 0
  | t :: rest => t.countChecks + countChecksOf rest

end

mutual

/-- The count is that of the listed conditions. -/
theorem countChecks_eq (t : Instruction) : t.countChecks = t.conditions.length := by
  cases t with
  | check c => simp [countChecks, conditions]
  | group k cs => simpa [countChecks, conditions] using countChecksOf_eq cs

theorem countChecksOf_eq (cs : List Instruction) :
    countChecksOf cs = (conditionsOf cs).length := by
  cases cs with
  | nil => simp [countChecksOf, conditionsOf]
  | cons t rest => simp [countChecksOf, conditionsOf, countChecks_eq t, countChecksOf_eq rest]

end

/-- The conditions of a row are those of its trees, one tree after the other. -/
theorem conditionsOf_eq_flatMap (cs : List Instruction) :
    conditionsOf cs = cs.flatMap conditions := by
  induction cs with
  | nil => rfl
  | cons t rest ih => rw [conditionsOf, ih, List.flatMap_cons]

end Instruction

/-! ### Requirements -/

/-- A tree whose root is a group. -/
structure Requirement where
  connective : Connective
  children : List Instruction
  deriving Inhabited, Repr

namespace Requirement

def root (r : Requirement) : Instruction := .group r.connective r.children

/-- The tree as a requirement; a single condition becomes the only child of an `all` group. -/
def ofInstruction : Instruction → Requirement
  | .check c => ⟨.all, [.check c]⟩
  | .group k cs => ⟨k, cs⟩

/-- The number of conditions. -/
def countChecks (r : Requirement) : Nat := r.root.countChecks

def hasChecks (r : Requirement) : Bool := 0 < r.countChecks

/-- The requirement in place of one without conditions: the value is not absent. -/
def present : Requirement := ⟨.all, [.check ⟨"absent", [], true⟩]⟩

theorem root_ofInstruction_group (k : Connective) (cs : List Instruction) :
    (ofInstruction (.group k cs)).root = .group k cs := rfl

end Requirement

/-! ### Equality of trees -/

/-- Equality of conditions, with arguments as `Json.same` compares them. -/
def Condition.same (a b : Condition) : Bool :=
  a.name == b.name && Json.equalItems Number.same a.args b.args && a.negate == b.negate

namespace Instruction

mutual

/-- Equality of trees, child by child. -/
def same : Instruction → Instruction → Bool
  | .check a, .check b => a.same b
  | .group k l, .group m r => k == m && sameItems l r
  | _, _ => false

def sameItems : List Instruction → List Instruction → Bool
  | [], [] => true
  | a :: l, b :: r => a.same b && sameItems l r
  | _, _ => false

end

end Instruction

end Proviso
