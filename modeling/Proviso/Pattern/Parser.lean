/-
  Proviso/Pattern/Parser.lean
  ===========================
  **Reading a pattern.**

  The open groups and classes are kept on a stack, innermost first.  A group holds the branches
  in front of its last bar, the parts behind it, and the flags in force; flags set inside a group
  end with it.  What is complete carries the depth of its nesting, which has a limit.
-/
import Proviso.Pattern.Simplify
import Proviso.Pattern.Token

namespace Proviso.Pattern

/-- The flags in force. -/
structure Flags where
  ignoreCase : Bool := false
  multiLine : Bool := false
  dotNewline : Bool := false
  deriving Repr

/-- The flags after a row of changes. -/
def Flags.change (flags : Flags) (changes : List (Flag × Bool)) : Flags :=
  changes.foldl (fun flags c => match c.1 with
    | .ignoreCase => { flags with ignoreCase := c.2 }
    | .multiLine => { flags with multiLine := c.2 }
    | .dotNewline => { flags with dotNewline := c.2 }) flags

/-! ### Nesting -/

/-- The levels that may lie inside each other. -/
abbrev maxNesting : Nat := 250

/-- A piece that is complete, with the number of levels in it. -/
structure Nested (α : Type) where
  value : α
  depth : Nat := 0
  deriving Repr

/-- The depth of pieces side by side, which make a level if there are several. -/
def rowDepth {α : Type} : List (Nested α) → Nat
  | [] => 0
  | [piece] => piece.depth
  | row => (row.map (·.depth)).foldl max 0 + 1

/-- The piece, unless it is nested too deeply. -/
def Nested.bounded? {α : Type} (piece : Nested α) : Option (Nested α) :=
  if piece.depth ≤ maxNesting then some piece else none

/-! ### Groups -/

/-- An open group.  Branches and parts are in reverse; a change of flags is a part without a
    pattern, which cannot be repeated. -/
structure OpenGroup where
  number : Option Nat := none
  earlier : List (Nested Pattern) := []
  parts : List (Nested (Option Pattern)) := []
  flags : Flags := {}
  deriving Repr

namespace OpenGroup

/-- The branch behind the last bar. -/
def branch (g : OpenGroup) : Nested Pattern :=
  ⟨sequence (g.parts.filterMap (·.value)).reverse, rowDepth g.parts⟩

/-- The group as read so far, without its parentheses. -/
def content (g : OpenGroup) : Nested Pattern :=
  match g.earlier with
  | [] => g.branch
  | earlier =>
    let all := (g.branch :: earlier).reverse
    ⟨choice (all.map (·.value)), (all.map (·.depth)).foldl max 0 + 1⟩

/-- The group as a part of the one around it. -/
def close (g : OpenGroup) : Nested Pattern :=
  let p := match g.number with
    | some n => .group n g.content.value
    | none => g.content.value
  ⟨p, g.content.depth + 1⟩

/-- The group with one more part. -/
def push? (g : OpenGroup) (p : Nested Pattern) : Option OpenGroup := do
  let p ← p.bounded?
  return { g with parts := ⟨some p.value, p.depth⟩ :: g.parts }

/-- The group with a pattern without levels. -/
def pushLeaf (g : OpenGroup) (p : Pattern) : OpenGroup :=
  { g with parts := ⟨some p, 0⟩ :: g.parts }

/-- The group with its last part repeated, if there is one to repeat. -/
def repeatLast? (g : OpenGroup) (least : Nat) (most : Option Nat) (reluctant : Bool) :
    Option OpenGroup :=
  match g.parts with
  | ⟨some p, depth⟩ :: before =>
    { g with parts := before }.push? ⟨repeated p least most reluctant, depth + 1⟩
  | _ => none

/-- The group behind a bar. -/
def bar (g : OpenGroup) : OpenGroup := { g with earlier := g.branch :: g.earlier, parts := [] }

end OpenGroup

/-! ### Classes -/

/-- An open class: the set in front of its last operation, and the items behind it. -/
structure OpenClass where
  negated : Bool
  pending : Option (Nested CharSet × SetOp) := none
  items : List (Nested CharSet) := []
  deriving Repr

namespace OpenClass

/-- The sets read so far, with the operations applied from left to right.  If case is to be
    ignored, it is so in each operand. -/
def content (k : OpenClass) (ignoreCase : Bool) : Nested CharSet :=
  let union : CharSet := .ofList (k.items.flatMap (·.value))
  let depth := rowDepth k.items
  match k.pending with
  | none => ⟨union, depth⟩
  | some (left, op) =>
    let a := left.value.closed ignoreCase
    let b := union.closed ignoreCase
    let value := match op with
      | .inter => a.inter b
      | .diff => a.diff b
      | .symmDiff => a.symmDiff b
    ⟨value, max left.depth depth + 1⟩

/-- The class as an item or a part of what is around it. -/
def close (k : OpenClass) (ignoreCase : Bool) : Nested CharSet :=
  let content := k.content ignoreCase
  let set := content.value.closed ignoreCase
  ⟨if k.negated then set.compl else set, content.depth + 1⟩

/-- The class with one more item. -/
def add? (k : OpenClass) (item : Nested CharSet) : Option OpenClass := do
  return { k with items := (← item.bounded?) :: k.items }

/-- The class with an item without levels. -/
def addLeaf (k : OpenClass) (s : CharSet) : OpenClass := { k with items := ⟨s, 0⟩ :: k.items }

end OpenClass

/-! ### Tokens, one by one -/

/-- The state of reading: the open classes and groups, innermost first, the names of groups so
    far, and how many groups have a number. -/
structure Reading where
  classes : List OpenClass := []
  group : OpenGroup := {}
  outer : List OpenGroup := []
  names : List (List Char) := []
  numbered : Nat := 0
  deriving Repr

namespace Reading

/-- A group of this kind is opened.  Names differ from each other. -/
def openGroup? (r : Reading) (kind : GroupKind) : Option Reading :=
  let flags := r.group.flags
  let capturing : Reading := { r with
    group := { number := some (r.numbered + 1), flags := flags },
    outer := r.group :: r.outer,
    numbered := r.numbered + 1 }
  match kind with
  | .plain changes =>
    some { r with group := { flags := flags.change changes }, outer := r.group :: r.outer }
  | .numbered => some capturing
  | .named name =>
    if r.names.contains name then none else some { capturing with names := name :: r.names }

/-- One token outside of classes. -/
def stepGroup? (r : Reading) (t : Token) : Option Reading :=
  let flags := r.group.flags
  let leaf (p : Pattern) : Option Reading := some { r with group := r.group.pushLeaf p }
  match t with
  | .char c => leaf (ofSet ((CharSet.single c).closed flags.ignoreCase))
  | .set s => leaf (ofSet s)
  | .dot => leaf (ofSet (if flags.dotNewline then CharSet.everything else CharSet.notNewline))
  | .caret => leaf (.at (if flags.multiLine then .lineStart else .textStart))
  | .dollar => leaf (.at (if flags.multiLine then .lineEnd else .textEnd))
  | .anchor a => leaf (.at a)
  | .times least most reluctant => do
    return { r with group := ← r.group.repeatLast? least most reluctant }
  | .bar => some { r with group := r.group.bar }
  | .openGroup kind => r.openGroup? kind
  | .setFlags changes =>
    some { r with group := { r.group with
      flags := flags.change changes, parts := ⟨none, 0⟩ :: r.group.parts } }
  | .closeGroup =>
    match r.outer with
    | g :: outer => do return { r with group := ← g.push? r.group.close, outer := outer }
    | [] => none
  | .openClass negated => some { r with classes := [{ negated := negated }] }
  | .range .. | .setOp _ | .closeClass => none

/-- One token inside of the class `k`, with the classes `outer` around it. -/
def stepClass? (r : Reading) (k : OpenClass) (outer : List OpenClass) (t : Token) :
    Option Reading :=
  let ignoreCase := r.group.flags.ignoreCase
  let leaf (s : CharSet) : Option Reading := some { r with classes := k.addLeaf s :: outer }
  match t with
  | .char c => leaf (.single c)
  | .range first last => leaf (.range first last)
  | .set s => leaf s
  | .setOp op => do
    let left ← (k.content ignoreCase).bounded?
    return { r with
      classes := { negated := k.negated, pending := some (left, op) } :: outer }
  | .openClass negated => some { r with classes := { negated := negated } :: k :: outer }
  | .closeClass => do
    let closed ← (k.close ignoreCase).bounded?
    match outer with
    | [] => return { r with
        classes := [], group := ← r.group.push? ⟨ofSet closed.value, closed.depth⟩ }
    | k' :: outer => return { r with classes := (← k'.add? closed) :: outer }
  | _ => none

/-- One token. -/
def step? (r : Reading) (t : Token) : Option Reading :=
  match r.classes with
  | [] => r.stepGroup? t
  | k :: outer => r.stepClass? k outer t

end Reading

/-- Reads a pattern; `none` if it is not well formed or nested too deeply. -/
def parse? (s : String) : Option Pattern := do
  let r ← (← Token.read? s.toList).foldlM Reading.step? {}
  if r.outer.isEmpty && r.classes.isEmpty then
    let whole ← r.group.content.bounded?
    return whole.value
  else none

end Proviso.Pattern
