/-
  Proviso/Unicode/Ranges.lean
  ===========================
  **Sets of characters as ranges of code points.**

  A set is listed as its maximal ranges in ascending order, so membership is one walk along the
  list that stops at the first range reaching the character, and the operations on sets keep to
  one walk along each list as well.
-/

namespace Proviso.Unicode

/-- Ascending, disjoint ranges of code points, both ends included. -/
abbrev Ranges := List (Nat × Nat)

namespace Ranges

/-- Whether some range holds the code point `n`; ranges above `n` are not visited. -/
def covers : Ranges → Nat → Bool
  | [], _ => false
  | (lo, hi) :: rest, n => if n ≤ hi then lo ≤ n else covers rest n

/-! ### Sums of sets -/

/-- The range `r` at its place among ranges listed by their lower ends, where `rest` deals with
    what comes behind it. -/
def weave (r : Nat × Nat) (rest : Ranges → Ranges) : Ranges → Ranges
  | [] => r :: rest []
  | s :: later => if r.1 ≤ s.1 then r :: rest (s :: later) else s :: weave r rest later

/-- The ranges of two sets by their lower ends. -/
def merge : Ranges → Ranges → Ranges
  | [] => id
  | r :: rest => weave r (merge rest)

/-- The range `r` in front of ranges that start no earlier, where ranges that overlap or adjoin
    become one. -/
def joinFrom (r : Nat × Nat) : Ranges → Ranges
  | [] => [r]
  | s :: rest =>
    if s.1 ≤ r.2 + 1 then joinFrom (r.1, max r.2 s.2) rest else r :: joinFrom s rest

/-- The set of ranges that are listed by their lower ends and may overlap. -/
def join : Ranges → Ranges
  | [] => []
  | r :: rest => joinFrom r rest

/-- The set of ranges in any order. -/
def ofList (rs : List (Nat × Nat)) : Ranges := join (rs.foldr (fun r => weave r id) [])

def union (a b : Ranges) : Ranges := join (merge a b)

/-! ### What a set leaves out -/

/-- The largest code point. -/
abbrev top : Nat := 0x10ffff

/-- The code point behind `n`; surrogates are no characters. -/
def next (n : Nat) : Nat := if n = 0xd7ff then 0xe000 else n + 1

/-- The code point in front of `n`; surrogates are no characters. -/
def previous (n : Nat) : Nat := if n = 0xe000 then 0xd7ff else n - 1

/-- The characters from `n` on that are in none of the ranges. -/
def complFrom (n : Nat) : Ranges → Ranges
  | [] => if n ≤ top then [(n, top)] else []
  | (lo, hi) :: rest =>
    if n < lo then (n, previous lo) :: complFrom (next hi) rest else complFrom (next hi) rest

def compl (a : Ranges) : Ranges := complFrom 0 a

def inter (a b : Ranges) : Ranges := (a.compl.union b.compl).compl

def diff (a b : Ranges) : Ranges := a.inter b.compl

/-- The characters in one of the two sets only. -/
def symmDiff (a b : Ranges) : Ranges := (a.union b).diff (a.inter b)

/-! ### Adjoining ranges, and the gap of the surrogates -/

example : ofList [(5, 9), (1, 4), (20, 30), (25, 26)] = [(1, 9), (20, 30)] := by decide +kernel
example : compl [(0, 0xd7ff), (0xf000, top)] = [(0xe000, 0xefff)] := by decide +kernel
example : inter [(1, 9)] [(0, 3), (7, 12)] = [(1, 3), (7, 9)] := by decide +kernel

end Ranges

end Proviso.Unicode
