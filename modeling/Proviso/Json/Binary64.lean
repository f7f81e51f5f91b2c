/-
  Proviso/Json/Binary64.lean
  ==========================
  **Finite binary64 numbers**, as exact multiples of the smallest positive one.

  Every finite number of the format is a whole number of *units* of `2 ^ -1074`.  Counting the
  representable magnitudes upwards from zero gives each its `index`: the low 52 bits of the
  index are the fraction field and the rest is the exponent field, so a larger index is a larger
  magnitude, and a carry out of the fraction lands in the next binade by itself.

  `units` is the exact value, `compare` orders by it, and `nearestIndex` rounds a quotient to the
  nearest representable magnitude, a half going to the even neighbour.
-/

namespace Proviso

namespace Binary64

/-- The number of fractions in a binade: the fraction field has 52 bits. -/
abbrev binade : Nat := 0x10000000000000

/-- The index that infinity would have, behind the 2047 exponents of finite numbers. -/
abbrev infinityIndex : Nat := 0x7ff0000000000000

/-- The number of units in one. -/
abbrev one : Nat := 1 <<< 1074

end Binary64

/-- A finite binary64 number: a sign, and the position of its magnitude among all magnitudes of
    the format. -/
structure Binary64 where
  negative : Bool
  index : Fin Binary64.infinityIndex
  deriving DecidableEq, Repr

namespace Binary64

/-! ### Exact value -/

/-- The numbers around `x` are `1 <<< scale` units apart. -/
def scale (x : Binary64) : Nat := x.index.val / binade - 1

/-- The magnitude in steps of its own spacing; normal numbers have the hidden bit set. -/
def significand (x : Binary64) : Nat :=
  if x.index.val < binade then x.index.val else binade + x.index.val % binade

/-- The magnitude in units of `2 ^ -1074`. -/
def units (x : Binary64) : Nat := x.significand <<< x.scale

/-- The value in units of `2 ^ -1074`. -/
def signedUnits (x : Binary64) : Int := if x.negative then -(x.units : Int) else x.units

/-- Whether the fractional part is zero. -/
def isWhole (x : Binary64) : Bool := x.units % one == 0

/-- The integral part, toward zero. -/
def truncate (x : Binary64) : Int := x.signedUnits.tdiv one

/-- Order by value; the two zeros are equal. -/
def compare (x y : Binary64) : Ordering := Ord.compare x.signedUnits y.signedUnits

/-! ### Rounding -/

/-- `num / den` to the nearest whole number, a half to the even one. -/
def divNearest (num den : Nat) : Nat :=
  let quotient := num / den
  match Ord.compare (2 * (num % den)) den with
  | .lt => quotient
  | .gt => quotient + 1
  | .eq => quotient + quotient % 2

/-- The index of the magnitude nearest to `num / den`.  It passes the largest index exactly when
    the quotient rounds beyond the format. -/
def nearestIndex (num den : Nat) : Nat :=
  let units := num * one
  let scale := Nat.log2 (units / den) - 52
  scale * binade + divNearest units (den <<< scale)

/-- The number nearest to `num / den`, if the format reaches that far. -/
def nearest? (negative : Bool) (num den : Nat) : Option Binary64 :=
  if h : nearestIndex num den < infinityIndex then some ⟨negative, ⟨nearestIndex num den, h⟩⟩
  else none

/-- The number nearest to a whole number. -/
def ofInt? (n : Int) : Option Binary64 := nearest? (n < 0) n.natAbs 1

/-! ### The corners of the format -/

example : (ofInt? 1).map (·.units) = some one := by decide +kernel

example : (nearest? false 1 one).map (·.index.val) = some 1 := by decide +kernel

example : nearest? false (1 <<< 1024) 1 = none := by decide +kernel

example : ofInt? 0x20000000000001 = ofInt? 0x20000000000000 := by decide +kernel

example : ofInt? 0x20000000000003 = ofInt? 0x20000000000004 := by decide +kernel

end Binary64

end Proviso
