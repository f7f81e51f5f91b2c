/-
  Proviso/Pattern/Compile.lean
  ============================
  **From the text of a pattern to a search.**

  A pattern is valid if it is well formed and its footprint stays within the limit; whether it
  occurs in a text is asked of valid patterns only.  This is one engine, the one that a program
  runs with.  It knows the tokens of `Pattern/Token.lean`: no classes by name, no properties of
  characters, and of the flags only those for case, lines and the dot.
-/
import Proviso.Pattern.Engine
import Proviso.Pattern.Footprint
import Proviso.Pattern.Parser
import Proviso.Pattern.Search

namespace Proviso.Pattern

/-- The pattern that a text spells, if it is valid. -/
def compile? (s : String) : Option Pattern := (parse? s).filter fits

/-- The engine that a program runs with. -/
def engine : Engine Unit Pattern where
  compile pattern := match compile? pattern with
    | some p => .ok p
    | none => .error ()
  occurs p text := occursIn p text.toList

end Proviso.Pattern
