/-
  Proviso/Pattern/Simplify.lean
  =============================
  **Patterns in simple form.**

  A pattern is put together with these functions rather than with the constructors.  They leave
  no row inside a row, no choice inside a choice, no empty part of a row and no two texts side by
  side; a choice between characters is a set, and what all branches of a choice start with stands
  in front of it.
-/
import Proviso.Pattern.Extent

namespace Proviso.Pattern

/-- The character of the set, if there is just one. -/
def CharSet.only? : CharSet → Option Char
  | [(lo, hi)] => if lo = hi then some (Char.ofNat lo) else none
  | _ => none

/-- A character of the set. -/
def ofSet (s : CharSet) : Pattern :=
  match s.only? with
  | some c => .one (.text [c])
  | none => .one (.set s)

/-- The pattern `p` repeated.  More than one round of a pattern that consumes nothing is the same
    as one. -/
def repeated (p : Pattern) (least : Nat) (most : Option Nat) (reluctant : Bool) : Pattern :=
  let stands := (extent p).stands
  let least := if stands then min least 1 else least
  let most := if stands then some (min (most.getD 1) 1) else most
  if least = 0 ∧ most = some 0 then .empty
  else if least = 1 ∧ most = some 1 then p
  else .times p least most reluctant

/-! ### Rows -/

/-- The parts of a row; another pattern is a row of its own. -/
def parts : Pattern → List Pattern
  | .empty => []
  | .seq ps => ps
  | p => [p]

/-- The pattern in front of a row, as one text where two would meet. -/
def prepend : Pattern → List Pattern → List Pattern
  | .one (.text cs), .one (.text ds) :: rest => .one (.text (cs ++ ds)) :: rest
  | p, rest => p :: rest

/-- The pattern with these parts. -/
def ofParts : List Pattern → Pattern
  | [] => .empty
  | [p] => p
  | ps => .seq ps

/-- Patterns one after the other. -/
def sequence (ps : List Pattern) : Pattern := ofParts ((ps.flatMap parts).foldr prepend [])

/-! ### Choices -/

/-- The branches of a choice; another pattern is a choice of its own. -/
def branches : Pattern → List Pattern
  | .alt ps => ps
  | p => [p]

def char? : Pattern → Option Char
  | .one (.text [c]) => some c
  | _ => none

def set? : Pattern → Option CharSet
  | .one (.set s) => some s
  | _ => none

/-- The parts of a row of two or more. -/
def row? : Pattern → Option (List Pattern)
  | .seq ps => some ps
  | _ => none

/-- The pattern with these branches. -/
def ofBranches (ps : List Pattern) : Pattern :=
  match ps, ps.mapM char?, ps.mapM set? with
  | [p], _, _ => p
  | _ :: _, some cs, _ => ofSet (Unicode.Ranges.ofList (cs.flatMap CharSet.single))
  | _ :: _, _, some sets => ofSet (Unicode.Ranges.ofList sets.flatten)
  | _, _, _ => .alt ps

/-- What two rows start with alike. -/
def shared : List Pattern → List Pattern → List Pattern
  | p :: ps, q :: qs => if p.same q then p :: shared ps qs else []
  | _, _ => []

/-- Any of the patterns. -/
def choice (ps : List Pattern) : Pattern :=
  let all := ps.flatMap branches
  match all.mapM row? with
  | some (first :: second :: rest) =>
    let start := (second :: rest).foldl shared first
    if start.isEmpty then ofBranches all
    else
      let ends := (first :: second :: rest).map fun row => sequence (row.drop start.length)
      sequence (start ++ [ofBranches (ends.flatMap branches)])
  | _ => ofBranches all

end Proviso.Pattern
