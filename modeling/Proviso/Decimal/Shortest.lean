/-
  Proviso/Decimal/Shortest.lean
  =============================
  **The shortest decimal that reads back**: for a binary64 number, the decimal with the fewest
  significant digits among those that round to it, and the nearest of these.

  The reals that round to a number form an interval around it; its ends are halfway to the
  neighbours and belong to it when the significand is even.  A decimal grid `10 ^ p` meets the
  interval exactly when one of the two grid points around the number does, so it is enough to
  test those two on ever finer grids.  All lengths are whole numbers of quarter units.
-/
import Proviso.Json.Binary64

namespace Proviso

/-- The decimal `digits · 10 ^ exponent`. -/
structure Decimal where
  digits : Nat
  exponent : Int
  deriving DecidableEq, Repr

namespace Binary64

/-- The number of quarter units in one. -/
abbrev quarterOne : Nat := 4 * one

/-- The lower end of the reals that round to `x`, in quarter units.  Below a power of two the
    spacing halves, so the end lies only half as far away. -/
def lowerEnd (x : Binary64) : Nat :=
  4 * x.units - (if x.significand = binade ∧ 0 < x.scale then 1 else 2) <<< x.scale

/-- The upper end of the reals that round to `x`, in quarter units. -/
def upperEnd (x : Binary64) : Nat := 4 * x.units + 2 <<< x.scale

/-- Whether `n / den` quarter units round to `x`. -/
def attracts (x : Binary64) (n den : Nat) : Bool :=
  if x.significand % 2 = 0 then x.lowerEnd * den ≤ n && n ≤ x.upperEnd * den
  else x.lowerEnd * den < n && n < x.upperEnd * den

/-- The multiple of `10 ^ p` nearest to `x` that rounds to it, if there is one; an exact tie goes
    to the even multiple. -/
def nearestMultiple? (x : Binary64) (p : Int) : Option Nat :=
  let step := Nat.pow 10 p.toNat * quarterOne
  let den := Nat.pow 10 (-p).toNat
  let below := 4 * x.units * den / step
  match x.attracts (below * step) den, x.attracts ((below + 1) * step) den with
  | true, true => some (divNearest (4 * x.units * den) step)
  | true, false => some below
  | false, true => some (below + 1)
  | false, false => none

/-- The `p` with `10 ^ (p - 1) ≤ |x| < 10 ^ p`, for `x` other than zero: the number of digits
    before the point, counted down from zero by the zeros behind it. -/
def magnitude (x : Binary64) : Int :=
  (Nat.repr (x.units * Nat.pow 10 330 / one)).length - 330

/-- The shortest decimal that rounds to the magnitude of `x`, nearest to it among those.
    Seventeen digits always suffice. -/
def shortest (x : Binary64) : Decimal :=
  let found : Option Decimal := (List.range 17).findSome? fun (k : Nat) =>
    let p : Int := x.magnitude - (k + 1)
    (x.nearestMultiple? p).map fun digits => ⟨digits, p⟩
  found.getD ⟨0, 0⟩

end Binary64

end Proviso
