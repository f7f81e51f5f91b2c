/-
  Proviso/Pattern/Engine.lean
  ===========================
  **What is asked of an engine for patterns.**

  Which patterns there are and where they occur is for an engine to say.  It compiles a pattern,
  which may fail, and tells whether what comes of it occurs in a text.  The checks and the store of
  compilations take an engine as it is: no law is asked of it.
-/

namespace Proviso.Pattern

/-- An engine that compiles patterns to `ρ` and refuses one for a reason in `ε`. -/
structure Engine (ε ρ : Type) where
  compile (pattern : String) : Except ε ρ
  /-- Whether a compiled pattern occurs anywhere in a text. -/
  occurs (compiled : ρ) (text : String) : Bool

namespace Engine

variable {ε ρ : Type} (engine : Engine ε ρ)

/-- Whether a pattern compiles. -/
def accepts (pattern : String) : Bool := (engine.compile pattern).isOk

/-- Whether a pattern occurs in a text; one that does not compile never does. -/
def finds (pattern text : String) : Bool :=
  match engine.compile pattern with
  | .ok compiled => engine.occurs compiled text
  | .error _ => false

end Engine

end Proviso.Pattern
