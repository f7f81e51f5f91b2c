/-
  Proviso/Pattern/Basic.lean
  ==========================
  **Patterns** for texts, as trees over characters and anchors.

  The tree is generic in what stands at its leaves.  A pattern has texts, sets of characters and
  anchors there; the same tree over positions of one text is what the search walks, and the one
  over encoded characters is what is measured.
-/
import Proviso.Pattern.CharSet

namespace Proviso

namespace Pattern

/-- A pattern tree whose leaves consume characters (`one`) or look at a position (`at`). -/
inductive Shape (σ τ : Type) where
  | empty
  | one (s : σ)
  | at (a : τ)
  /-- At least `least` and at most `most` times, without upper bound for `none`.  A reluctant
      repetition prefers to match less, which decides on where a match ends and never on whether
      there is one. -/
  | times (p : Shape σ τ) (least : Nat) (most : Option Nat) (reluctant : Bool)
  /-- A group that can be referred to by its number. -/
  | group (number : Nat) (p : Shape σ τ)
  | seq (ps : List (Shape σ τ))
  | alt (ps : List (Shape σ τ))
  deriving Inhabited, Repr

namespace Shape

variable {σ τ σ' τ' : Type}

mutual

/-- The tree with other leaves. -/
def map (f : σ → σ') (g : τ → τ') : Shape σ τ → Shape σ' τ'
  | .empty => .empty
  | .one s => .one (f s)
  | .at a => .at (g a)
  | .times p least most reluctant => .times (p.map f g) least most reluctant
  | .group number p => .group number (p.map f g)
  | .seq ps => .seq (mapEach f g ps)
  | .alt ps => .alt (mapEach f g ps)

def mapEach (f : σ → σ') (g : τ → τ') : List (Shape σ τ) → List (Shape σ' τ')
  | [] => []
  | p :: rest => p.map f g :: mapEach f g rest

end

mutual

def same [BEq σ] [BEq τ] : Shape σ τ → Shape σ τ → Bool
  | .empty, .empty => true
  | .one s, .one s' => s == s'
  | .at a, .at a' => a == a'
  | .times p least most reluctant, .times p' least' most' reluctant' =>
    p.same p' && least == least' && most == most' && reluctant == reluctant'
  | .group number p, .group number' p' => number == number' && p.same p'
  | .seq ps, .seq ps' => sameEach ps ps'
  | .alt ps, .alt ps' => sameEach ps ps'
  | _, _ => false

def sameEach [BEq σ] [BEq τ] : List (Shape σ τ) → List (Shape σ τ) → Bool
  | [], [] => true
  | p :: rest, p' :: rest' => p.same p' && sameEach rest rest'
  | _, _ => false

end

end Shape

/-- What a pattern consumes: a text of one character or more, or a character of a set. -/
inductive Leaf where
  | text (cs : List Char)
  | set (s : CharSet)
  deriving DecidableEq, Repr

/-- Conditions on a position of a text. -/
inductive Anchor where
  | textStart | textEnd | lineStart | lineEnd | wordEdge | noWordEdge
  deriving DecidableEq, Repr

/-- Whether the anchor holds between these characters; `none` is the end of the text. -/
def Anchor.holds (a : Anchor) (before after : Option Char) : Bool :=
  let edge := before.any CharSet.wordChar.mem != after.any CharSet.wordChar.mem
  match a with
  | .textStart => before.isNone
  | .textEnd => after.isNone
  | .lineStart => before.all (· == '\n')
  | .lineEnd => after.all (· == '\n')
  | .wordEdge => edge
  | .noWordEdge => !edge

end Pattern

/-- A pattern for texts. -/
abbrev Pattern := Pattern.Shape Pattern.Leaf Pattern.Anchor

end Proviso
