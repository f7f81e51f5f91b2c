/-
  Proviso/Draft/Normalize.lean
  ============================
  **From drafts to requirements.**

  A text names a check.  A number, a boolean and, below the root, `null` ask for a value equal to
  them.  A list asks for any of its items.  An object with the key `check` or `args` spells out a
  single condition; any other object asks for all of what it lists under `all` and `and` and of
  the checks its other keys name, and for any of what it lists under `any` and `or`.

  Reading goes down one level at a time and has room for `maxDepth` levels, which bounds the
  recursion.
-/
import Proviso.Draft.Basic
import Proviso.Instruction.Condition
import Proviso.Instruction.Flatten

namespace Proviso

/-- The condition with these parts, of which the name may be missing. -/
def Condition.ofParts (name : Option String) (args : List Json) (negate : Bool) :
    Except Error Condition :=
  match name with
  | some name => .ok (Condition.ofWritten name args negate)
  | none => .error .missingCheckName

namespace Draft

/-! ### Objects -/

/-- The key that names the check of a single condition. -/
abbrev checkKey : String := "check"

/-- The key for the arguments of a single condition. -/
abbrev argsKey : String := "args"

/-- The key that turns a single condition into its opposite. -/
abbrev negateKey : String := "negate"

/-- The keys that never name a check. -/
def reservedKeys : List String :=
  ["mixin", Keyword.and.text, Keyword.or.text, Keyword.all.text, Keyword.any.text, argsKey] ++
    OptionKey.all.map OptionKey.text

/-- Whether an object spells out a single condition. -/
def isShorthand (members : List (String × Json)) : Bool :=
  (members.lookup checkKey).isSome || (members.lookup argsKey).isSome

/-- The arguments of a single condition: the items of a list, or one argument that is not a
    list. -/
def shorthandArgs (members : List (String × Json)) : List Json :=
  match members.lookup argsKey with
  | none | some .null => []
  | some (.arr items) => items
  | some single => [single]

/-- The condition that an object spells out. -/
def shorthand (members : List (String × Json)) : Except Error Condition :=
  Condition.ofParts ((members.lookup checkKey).bind Json.text?) (shorthandArgs members)
    (((members.lookup negateKey).bind Json.bool?).getD false)

/-- The instructions under a keyword. -/
def itemsUnder (key : Keyword) (members : List (String × Json)) : Except Error (List Json) :=
  match members.lookup key.text with
  | none => .ok []
  | some (.arr items) => .ok items
  | some other => .error (.notAList key other.kind)

/-- What an object lists under its keywords: the instructions of which all, and those of which
    any is asked for. -/
def listed (members : List (String × Json)) : Except Error (List Json × List Json) := do
  let all ← itemsUnder .all members
  let any ← itemsUnder .any members
  let and ← itemsUnder .and members
  let or ← itemsUnder .or members
  return (all ++ and, any ++ or)

/-- The conditions that the keys of an object name. -/
def implicitConditions (members : List (String × Json)) : List Instruction :=
  (members.filter fun m => !reservedKeys.contains m.1).map fun m =>
    .check (Condition.ofWritten m.1 [m.2] false)

/-! ### Values -/

/-- The group that asks for all of `all` and for any of `any`, where there is one. -/
def combine (all any : List Instruction) : Instruction :=
  match all, any with
  | all, [] => .group .all all
  | [], any => .group .any any
  | all, any => .group .all (all ++ [.group .any any])

/-- The group of what is read from a list or an object on a level. -/
def collect (place : Place) (level : Nat) (all any : List Instruction) :
    Logged Error Instruction := do
  Logged.emit [.combined level all.length any.length]
  return (combine all any).flatten place

/-- The condition that a value equals this one. -/
def literal (j : Json) : Instruction := .check ⟨"equals", [j], false⟩

/-- The instruction that a value spells, with room for this many levels. -/
def normalizeValue : (room : Nat) → Place → Json → Logged Error Instruction
  | 0, _, _ => .fail .tooDeep
  | room + 1, place, j =>
    let below := Logged.forEach (normalizeValue room .nested)
    let level := maxDepth - room
    match j with
    | .str name => pure (.check (Condition.ofWritten name [] false))
    | .null =>
      match place with
      | .root => pure (.group .all [])
      | .nested => pure (literal j)
    | .bool _ | .num _ => pure (literal j)
    | .arr items => do collect place level [] (← below items)
    | .obj members =>
      if isShorthand members then return .check (← Logged.ofExcept (shorthand members))
      else do
        let (all, any) ← Logged.ofExcept (listed members)
        let all ← below all
        let any ← below any
        collect place level (all ++ implicitConditions members) any

/-- The instruction that a body spells, with room for this many levels. -/
def normalizeBody : (room : Nat) → Place → Body → Logged Error Instruction
  | 0, _, _ => .fail .tooDeep
  | room + 1, place, body =>
    match body with
    | .written j => normalizeValue (room + 1) place j
    | .settled r => pure (r.root.flatten place)
    | .conjunction bodies => do
      let children ← Logged.forEach (normalizeBody room .nested) bodies
      return (Instruction.group .all children).flatten place

/-! ### Drafts -/

/-- The requirement that a draft spells.  The keys that hold options say nothing here. -/
def normalize (d : Draft) : Logged Error Requirement :=
  match d.body with
  | .settled r => pure r
  | body => do
    let root ← normalizeBody maxDepth .root body
    Logged.emit [.normalized root.countChecks]
    return Requirement.ofInstruction root

end Draft

end Proviso
