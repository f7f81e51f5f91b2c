/-
  Proviso/Pattern/Footprint/Basic.lean
  ====================================
  **The memory that an automaton takes**, which has a limit.
-/

namespace Proviso.Pattern

/-- What states take: their number, and the bytes of what leaves them. -/
structure Footprint where
  states : Nat
  extra : Nat
  deriving DecidableEq, Repr

namespace Footprint

def zero : Footprint := ⟨0, 0⟩

def add (a b : Footprint) : Footprint := ⟨a.states + b.states, a.extra + b.extra⟩

/-- States from which nothing but their only successor is listed. -/
def simple (n : Nat) : Footprint := ⟨n, 0⟩

/-- A state that chooses between `n` successors. -/
def fork (n : Nat) : Footprint := ⟨1, 4 * n⟩

/-- A state that chooses a successor by one of `n` ranges of bytes. -/
def branching (n : Nat) : Footprint := ⟨1, 8 * n⟩

/-- The memory in bytes. -/
def bytes (f : Footprint) : Nat := 32 * f.states + f.extra

/-- The most bytes that an automaton may take. -/
abbrev limit : Nat := 10 * 1024 * 1024

/-- Both together, unless they take too much. -/
def charge? (a b : Footprint) : Option Footprint :=
  let sum := a.add b
  if sum.bytes ≤ limit then some sum else none

/-- What `step` makes of it in `n` rounds. -/
def rounds? (step : Footprint → Option Footprint) : Nat → Footprint → Option Footprint
  | 0, f => some f
  | n + 1, f =>
    match step f with
    | some f => rounds? step n f
    | none => none

end Footprint

end Proviso.Pattern
