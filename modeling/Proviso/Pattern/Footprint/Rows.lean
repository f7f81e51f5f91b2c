/-
  Proviso/Pattern/Footprint/Rows.lean
  ===================================
  **Automata for sets of characters**, read forwards or backwards.

  A set is given by its rows of byte ranges.  Read forwards, the rows form a tree by what they
  start with, and subtrees that are equal share their state.  Read backwards, a row shares the
  states of an earlier one as far as both end alike.  States are found again in a table with a
  fixed number of places, so some that could be shared are not.
-/
import Proviso.Pattern.Footprint.Basic

namespace Proviso.Pattern.Footprint

/-! ### Finding states again -/

/-- The states that can be found again, each at the place that its key determines; there a later
    state takes over from an earlier one. -/
structure Table where
  places : Array (Option (List Nat × Nat))

namespace Table

/-- The table with this many places, all of them free. -/
def ofSize (n : Nat) : Table := ⟨Array.replicate n none⟩

/-- The digest of a key, with the numbers taken as if each was a byte of FNV-1a. -/
def digest (key : List Nat) : UInt64 :=
  key.foldl (fun h n => (h ^^^ n.toUInt64) * 0x100000001b3) 0xcbf29ce484222325

def place (t : Table) (key : List Nat) : Nat := (digest key).toNat % t.places.size

/-- The state with this key, if it is still at its place. -/
def find? (t : Table) (key : List Nat) : Option Nat :=
  match t.places[t.place key]? with
  | some (some (key', n)) => if key = key' then some n else none
  | _ => none

/-- The table with one more state. -/
def put (t : Table) (key : List Nat) (n : Nat) : Table :=
  ⟨t.places.setIfInBounds (t.place key) (some (key, n))⟩

end Table

/-- States under construction: the number of the next one, what they list so far, and those that
    can be found again. -/
structure Sharing where
  next : Nat
  extra : Nat
  table : Table

/-- The state with this key, which lists `extra` bytes if it has to be made. -/
def Sharing.state (key : List Nat) (extra : Nat) : Sharing → Nat × Sharing
  | ⟨next, listed, table⟩ =>
    match table.find? key with
    | some n => (n, ⟨next, listed, table⟩)
    | none => (next, ⟨next + 1, listed + extra, table.put key next⟩)

/-! ### Forwards -/

/-- Rows by what they start with: the last byte range with what follows it, and the same for the
    ranges before it. -/
inductive RowTree where
  | nil
  | snoc (before : RowTree) (bytes : Nat × Nat) (next : RowTree)
  deriving Repr

namespace RowTree

/-- The tree with one more row, which comes behind all others. -/
def insert : List (Nat × Nat) → RowTree → RowTree
  | [], _ => .nil
  | r :: rest, .nil => .snoc .nil r (insert rest .nil)
  | r :: rest, .snoc before bytes next =>
    if r = bytes then .snoc before bytes (insert rest next)
    else .snoc (.snoc before bytes next) r (insert rest .nil)

/-- The tree of rows in ascending order. -/
def ofRows (rows : List (List (Nat × Nat))) : RowTree :=
  rows.foldl (fun t row => t.insert row) .nil

/-- The ranges of a node with the states behind them, the last one first; the rows end in the
    state `target`.  All states below the node are made in front of it. -/
def edges (target : Nat) : RowTree → Sharing → List Nat × Sharing
  | .nil, s => ([], s)
  | .snoc before (lo, hi) .nil, s =>
    let (es, s) := before.edges target s
    (target :: hi :: lo :: es, s)
  | .snoc before (lo, hi) next, s =>
    let (es, s) := before.edges target s
    let (below, s) := next.edges target s
    let (n, s) := s.state below.reverse (8 * (below.length / 3))
    (n :: hi :: lo :: es, s)

/-- What the tree takes if the state `first` is the next one.  That one is where the rows end. -/
def footprint (t : RowTree) (first : Nat) : Footprint :=
  let (top, s) := t.edges first ⟨first + 1, 0, .ofSize 10000⟩
  let (_, s) := s.state top.reverse (8 * (top.length / 3))
  ⟨s.next - first, s.extra⟩

end RowTree

/-! ### Backwards -/

/-- The states for a row, from its last byte on, in front of the state `target`. -/
def rowBackwards (target : Nat) (s : Sharing) (row : List (Nat × Nat)) : Nat × Sharing :=
  row.foldl (fun (n, s) (lo, hi) => s.state [n, lo, hi] 0) (target, s)

/-- What the rows take if the state `first` is the next one.  That one chooses between them, and
    the one behind it is where they end. -/
def rowsBackwards (rows : List (List (Nat × Nat))) (first : Nat) : Footprint :=
  let s := rows.foldl (fun s row => (rowBackwards (first + 1) s row).2)
    ⟨first + 2, 0, .ofSize 1000⟩
  ⟨s.next - first, s.extra + 4 * rows.length⟩

end Proviso.Pattern.Footprint
