/-
  Proviso/Pattern/Cache.lean
  ==========================
  **A store of compiled patterns.**

  Compiling is left open: it is any function from patterns to what a search needs, and may fail.
  The store holds a bounded number of compilations; one of them gives way when a new one needs
  its place, and which one is left open as well.  A pattern that does not compile is not stored.
-/

namespace Proviso.Pattern

/-- Compiled patterns by the pattern that they come from. -/
structure Cache (ρ : Type) where
  entries : List (String × ρ)
  deriving Repr

namespace Cache

variable {ε ρ : Type}

/-- The most compilations a store holds. -/
abbrev capacity : Nat := 100

def empty : Cache ρ := ⟨[]⟩

/-- The store with room for one more: when it is full, the entry at `victim`, counted around the
    store, gives way. -/
def makeRoom (c : Cache ρ) (victim : Nat) : Cache ρ :=
  if c.entries.length < capacity then c else ⟨c.entries.eraseIdx (victim % c.entries.length)⟩

/-- The compilation of a pattern, from the store if it is there, and the store afterwards. -/
def fetch (compile : String → Except ε ρ) (victim : Nat) (c : Cache ρ) (pattern : String) :
    Except ε ρ × Cache ρ :=
  match c.entries.lookup pattern with
  | some compiled => (.ok compiled, c)
  | none =>
    match compile pattern with
    | .ok compiled => (.ok compiled, ⟨(pattern, compiled) :: (c.makeRoom victim).entries⟩)
    | .error e => (.error e, c)

/-- Whether the pattern occurs in a text, by way of the store. -/
def search (compile : String → Except ε ρ) (occurs : ρ → String → Bool) (victim : Nat)
    (c : Cache ρ) (pattern text : String) : Bool × Cache ρ :=
  match c.fetch compile victim pattern with
  | (.ok compiled, c) => (occurs compiled text, c)
  | (.error _, c) => (false, c)

end Cache

end Proviso.Pattern
