/-
  Proviso/Pattern/CharSet.lean
  ============================
  **Sets of characters** that a pattern can ask for.

  Patterns go by version 16 of the standard, one behind the other texts here: the newest
  characters are neither digits nor word characters to them.
-/
import Proviso.Unicode.CaseFolding
import Proviso.Unicode.Classes
import Proviso.Unicode.Newcomers

namespace Proviso.Pattern

/-- A set of characters. -/
abbrev CharSet := Unicode.Ranges

namespace CharSet

def range (first last : Char) : CharSet := [(first.toNat, last.toNat)]

def single (c : Char) : CharSet := range c c

/-- Decimal digits of any script. -/
def digit : CharSet := Unicode.decimalDigits.diff Unicode.newcomers

/-- White space. -/
def blank : CharSet := Unicode.whiteSpace

/-- Characters that make up words: letters, marks, decimal digits, connecting punctuation and
    the two joiners. -/
def wordChar : CharSet :=
  (Unicode.Ranges.ofList (Unicode.alphabetic ++ Unicode.marks ++ Unicode.decimalDigits ++
    Unicode.connectors ++ Unicode.joinControls)).diff Unicode.newcomers

/-- Every character but the line feed. -/
def notNewline : CharSet := (single '\n').compl

def everything : CharSet := Unicode.Ranges.compl []

def mem (s : CharSet) (c : Char) : Bool := s.covers c.toNat

/-- The set, closed under differences in case if they are to be ignored. -/
def closed (s : CharSet) (ignoreCase : Bool) : CharSet :=
  if ignoreCase then Unicode.caseClosure s else s

/-! ### Case is a matter of classes, not of pairs -/

example : closed (single 'k') true = [(0x4b, 0x4b), (0x6b, 0x6b), (0x212a, 0x212a)] := by
  decide +kernel

example : mem (closed (single 's') true).compl 'ſ' = false := by decide +kernel

end CharSet

end Proviso.Pattern
