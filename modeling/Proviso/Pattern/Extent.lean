/-
  Proviso/Pattern/Extent.lean
  ===========================
  **What is known of a match** without a text: how much it consumes, and whether it has to lie at
  one of the text's ends.

  Both are read off the tree from its leaves, whose widths are a parameter.
-/
import Proviso.Pattern.Basic

namespace Proviso.Pattern

/-- Bounds on the matches of a pattern. -/
structure Extent where
  /-- The fewest units that a match consumes; `none` if a part of the pattern never matches. -/
  least : Option Nat
  /-- The most units that a match consumes, if there is a bound. -/
  most : Option Nat
  /-- Whether a match starts where the text starts. -/
  opens : Bool
  /-- Whether a match ends where the text ends. -/
  closes : Bool
  deriving DecidableEq, Repr

namespace Extent

/-- A leaf of this width. -/
def leaf (width : Option Nat) : Extent := ⟨width, width, false, false⟩

/-- A position with this anchor. -/
def anchor (a : Anchor) : Extent := ⟨some 0, some 0, a = .textStart, a = .textEnd⟩

/-- Whether every match consumes something. -/
def consumes (e : Extent) : Bool := e.least.any (0 < ·)

/-- Whether no match consumes anything. -/
def stands (e : Extent) : Bool := e.most = some 0

/-- A repetition. -/
def times (e : Extent) (least : Nat) (most : Option Nat) : Extent :=
  ⟨e.least.map (· * least), (do return (← e.most) * (← most)), e.opens && 0 < least,
    e.closes && 0 < least⟩

/-- One pattern after the other: what the first does not consume leaves the second where the
    first was. -/
def append (a b : Extent) : Extent :=
  ⟨(do return (← a.least) + (← b.least)), (do return (← a.most) + (← b.most)),
    a.opens || (a.stands && b.opens), b.closes || (b.stands && a.closes)⟩

/-- Either of two patterns. -/
def either (a b : Extent) : Extent :=
  ⟨(do return min (← a.least) (← b.least)), (do return max (← a.most) (← b.most)),
    a.opens && b.opens, a.closes && b.closes⟩

end Extent

namespace Shape

variable {σ : Type}

mutual

/-- The extent of a tree whose leaves have these widths. -/
def extent (width : σ → Option Nat) : Shape σ Anchor → Extent
  | .empty => .leaf (some 0)
  | .one s => .leaf (width s)
  | .at a => .anchor a
  | .times p least most _ => (p.extent width).times least most
  | .group _ p => p.extent width
  | .seq ps => rowExtent width ps
  | .alt ps => choiceExtent width ps

/-- The extent of trees one after the other. -/
def rowExtent (width : σ → Option Nat) : List (Shape σ Anchor) → Extent
  | [] => .leaf (some 0)
  | p :: rest => (p.extent width).append (rowExtent width rest)

/-- The extent of a choice. -/
def choiceExtent (width : σ → Option Nat) : List (Shape σ Anchor) → Extent
  | [] => .leaf none
  | [p] => p.extent width
  | p :: rest => (p.extent width).either (choiceExtent width rest)

end

end Shape

/-- The characters that a leaf consumes; none match the empty set. -/
def Leaf.width : Leaf → Option Nat
  | .text cs => some cs.length
  | .set s => if s.isEmpty then none else some 1

/-- The extent of a pattern, in characters. -/
def extent (p : Pattern) : Extent := Shape.extent Leaf.width p

end Proviso.Pattern
