/-
  Proviso/Pattern/Footprint/Words.lean
  ====================================
  **Automata for a choice of texts**, which form a tree by their first bytes.

  Where a word ends, the words of later branches start anew: they must not be preferred to it.
-/
import Proviso.Pattern.Footprint.Basic

namespace Proviso.Pattern.Footprint

/-- Words by their first bytes: bytes with what follows them, and places where a word ends. -/
inductive WordTree where
  | nil
  | stop (before : WordTree)
  | byte (before : WordTree) (b : Nat) (next : WordTree)
  deriving Repr

namespace WordTree

/-- Whether no word goes on here. -/
def isLeaf : WordTree → Bool
  | .nil => true
  | .stop before => before.isLeaf
  | .byte .. => false

/-- The tree with a word that ends here. -/
def close (t : WordTree) : WordTree :=
  match t with
  | .stop .nil => t
  | _ => .stop t

/-- The tree with what follows the byte `b` changed, if a word that starts so came since the last
    one that ended here; else with `b` added. -/
def follow (b : Nat) (change : WordTree → WordTree) : WordTree → WordTree
  | .nil => .byte .nil b (change .nil)
  | .stop before => .byte (.stop before) b (change .nil)
  | .byte before b' next =>
    if b = b' then .byte before b (change next) else .byte (before.follow b change) b' next

/-- The tree with one more word. -/
def insert : List Nat → WordTree → WordTree
  | [] => close
  | b :: rest => follow b (insert rest)

/-- The tree of a choice of words. -/
def ofList (words : List (List Nat)) : WordTree := words.foldl (fun t w => t.insert w) .nil

/-- The state for `n` bytes that may come next, and its place in a choice. -/
def group : Nat → Footprint
  | 0 => .zero
  | 1 => ⟨1, 4⟩
  | n => ⟨1, 8 * n + 4⟩

/-- What a place of the tree takes, if `n` bytes are known to come next. -/
def placeFootprint (n : Nat) : WordTree → Footprint
  | .nil => group n
  | .stop before => ((group n).add ⟨0, 4⟩).add (before.placeFootprint 0)
  | .byte before _ next =>
    let below := if next.isLeaf then .zero else (next.placeFootprint 0).add (.simple 1)
    below.add (before.placeFootprint (n + 1))

/-- What the tree takes, with the state where all words end. -/
def footprint (t : WordTree) : Footprint := (t.placeFootprint 0).add (.simple 2)

end WordTree

/-! ### Common beginnings are shared up to the end of a word -/

example : (WordTree.ofList [[1, 2, 3], [1, 2, 4]]).footprint = ⟨7, 28⟩ := by decide +kernel
example : (WordTree.ofList [[1], [1, 2]]).footprint = ⟨5, 12⟩ := by decide +kernel

end Proviso.Pattern.Footprint
