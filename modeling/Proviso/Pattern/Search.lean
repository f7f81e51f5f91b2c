/-
  Proviso/Pattern/Search.lean
  ===========================
  **Searching a text for a pattern.**

  A set of positions is a number whose bit `i` stands for position `i`.  Every leaf of the
  pattern becomes such a set once per text, and a part of the pattern maps the positions where it
  may start to those where it may end.  All positions are carried at once, so the work is bounded
  by the sizes of pattern and text, whatever the pattern repeats.
-/
import Proviso.Pattern.Basic

namespace Proviso.Pattern

/-- The number whose lowest bit comes first in the list. -/
def ofBits : List Bool → Nat
  | [] => 0
  | b :: rest => 2 * ofBits rest + b.toNat

/-- The positions where `f` may arrive after exactly `k` rounds from `s`.  A round that changes
    nothing ends the count. -/
def exactly (f : Nat → Nat) : Nat → Nat → Nat
  | 0, s => s
  | k + 1, s =>
    let t := f s
    if t = s then s else exactly f k t

/-- The positions where `f` may arrive after at most `k` rounds from `s`.  A round that adds
    nothing ends the count. -/
def atMost (f : Nat → Nat) : Nat → Nat → Nat
  | 0, s => s
  | k + 1, s =>
    let t := s ||| f s
    if t = s then s else atMost f k t

/-- Where a leaf occurs in one text: the positions in front of it, and how far it reaches. -/
structure Occurrences where
  starts : Nat
  width : Nat

namespace Shape

mutual

/-- The positions where the tree may end when it starts in `starts`.  Anchors are the positions
    where they hold, and `length` is that of the text. -/
def reach (length : Nat) : Shape Occurrences Nat → Nat → Nat
  | .empty, starts => starts
  | .one o, starts => (starts &&& o.starts) <<< o.width
  | .at held, starts => starts &&& held
  | .times p least most _, starts =>
    let extra := match most with
      | some m => m - least
      | none => length + 1
    atMost (p.reach length) extra (exactly (p.reach length) least starts)
  | .group _ p, starts => p.reach length starts
  | .seq ps, starts => reachSeq length ps starts
  | .alt ps, starts => reachAlt length ps starts

/-- The positions where a row of trees, one after the other, may end. -/
def reachSeq (length : Nat) : List (Shape Occurrences Nat) → Nat → Nat
  | [], starts => starts
  | p :: rest, starts => reachSeq length rest (p.reach length starts)

/-- The positions where any of the trees may end. -/
def reachAlt (length : Nat) : List (Shape Occurrences Nat) → Nat → Nat
  | [], _ => 0
  | p :: rest, starts => p.reach length starts ||| reachAlt length rest starts

end

end Shape

/-- Whether `cs` stands in front of each position of a text but the last. -/
def standsAt (cs : List Char) : List Char → List Bool
  | [] => []
  | c :: rest => cs.isPrefixOf (c :: rest) :: standsAt cs rest

/-- The occurrences of a leaf in a text. -/
def Leaf.occurrences (text : List Char) : Leaf → Occurrences
  | .text cs => ⟨ofBits (standsAt cs text), cs.length⟩
  | .set s => ⟨ofBits (text.map s.mem), 1⟩

/-- The positions where an anchor holds. -/
def Anchor.positions (text : List Char) (a : Anchor) : Nat :=
  ofBits (List.zipWith a.holds (none :: text.map some) (text.map some ++ [none]))

/-- Whether the pattern matches anywhere in the text. -/
def occursIn (p : Pattern) (text : List Char) : Bool :=
  let located := p.map (Leaf.occurrences text) (Anchor.positions text)
  located.reach text.length ((1 <<< (text.length + 1)) - 1) != 0

end Proviso.Pattern
