/-
  Proviso/Unicode/Classes.lean
  ============================
  **Character classes**: white space, digits and letters of every script, and the characters a
  quoted text does not show as they are.
-/
import Proviso.Unicode.Alphabetic
import Proviso.Unicode.GraphemeExtend
import Proviso.Unicode.Marks
import Proviso.Unicode.Unprintable

namespace Proviso.Unicode

/-- The characters with the property White_Space. -/
def whiteSpace : Ranges :=
  [(0x9, 0xd), (0x20, 0x20), (0x85, 0x85), (0xa0, 0xa0), (0x1680, 0x1680), (0x2000, 0x200a),
   (0x2028, 0x2029), (0x202f, 0x202f), (0x205f, 0x205f), (0x3000, 0x3000)]

/-- White space, the no-break and the ideographic space included. -/
def isBlank (c : Char) : Bool := whiteSpace.covers c.toNat

/-- Decimal digits of any script. -/
def isDecimalDigit (c : Char) : Bool := decimalDigits.covers c.toNat

/-- Letters, and marks that are part of a letter. -/
def isAlphabetic (c : Char) : Bool := alphabetic.covers c.toNat

/-- Letters and numerals. -/
def isAlphanumeric (c : Char) : Bool :=
  isAlphabetic c || isDecimalDigit c || otherNumerals.covers c.toNat

/-- Letters that fill a place in a syllable and show nothing. -/
def fillers : Ranges := [(0x115f, 0x1160), (0x3164, 0x3164), (0xffa0, 0xffa0)]

/-- The halfwidth voicing marks, which count as attaching but stand by themselves. -/
def standingMarks : Ranges := [(0xff9e, 0xff9f)]

/-- Characters that have no picture of their own, or would attach to the one before. -/
def isHidden (c : Char) : Bool :=
  unprintable.covers c.toNat || fillers.covers c.toNat ||
    (graphemeExtend.covers c.toNat && !standingMarks.covers c.toNat)

/-! ### The blanks of core are blanks here, and the digits of core are digits -/

example : ['\t', '\n', '\r', ' '].all isBlank ∧ whiteSpace.length = 10 := by decide +kernel

example : (List.range 10).all fun n => isDecimalDigit (Char.ofNat (48 + n)) := by decide +kernel

end Proviso.Unicode
