/-
  Proviso/Instruction/Json.lean
  =============================
  **Instruction trees as values**, with one key per node: `check`, `all` or `any`.
-/
import Proviso.Instruction.Basic

namespace Proviso

def Condition.toJson (c : Condition) : Json :=
  .obj [("name", .str c.name), ("args", .arr c.args), ("negate", .bool c.negate)]

/-- The condition that a value is. -/
def Condition.ofJson? (j : Json) : Option Condition :=
  match j with
  | .obj [("name", .str name), ("args", .arr args), ("negate", .bool negate)] =>
    some ⟨name, args, negate⟩
  | _ => none

def Connective.ofText? (s : String) : Option Connective :=
  if s = all.text then some .all else if s = any.text then some .any else none

namespace Instruction

mutual

/-- A tree as a value. -/
def toJson : Instruction → Json
  | .check c => .obj [("check", c.toJson)]
  | .group k cs => .obj [(k.text, .arr (toJsonItems cs))]

def toJsonItems : List Instruction → List Json
  | [] => []
  | t :: rest => t.toJson :: toJsonItems rest

end

mutual

/-- The tree that a value is. -/
def ofJson? : Json → Option Instruction
  | .obj [(key, .arr items)] => do
    let k ← Connective.ofText? key
    return .group k (← ofJsonItems? items)
  | .obj [("check", j)] => (Condition.ofJson? j).map .check
  | _ => none

def ofJsonItems? : List Json → Option (List Instruction)
  | [] => some []
  | j :: rest => do return (← ofJson? j) :: (← ofJsonItems? rest)

end

end Instruction

def Requirement.toJson (r : Requirement) : Json := r.root.toJson

end Proviso
