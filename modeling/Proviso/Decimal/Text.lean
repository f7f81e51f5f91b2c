/-
  Proviso/Decimal/Text.lean
  =========================
  **Numbers in writing.**

  A whole number is written in decimal.  A binary64 number is written with its shortest digits,
  positionally while the exponent of its leading digit is within `positional`, and always with a
  fraction then; otherwise with an exponent, whose sign is always written.
-/
import Proviso.Decimal.Shortest
import Proviso.Json.Number

namespace Proviso

namespace Decimal

/-- The exponents of the leading digit that are written without an exponent part. -/
def positional (e : Int) : Bool := -5 ≤ e && e ≤ 15

/-- The digits before and behind a point that follows the digit of exponent zero. -/
def positionalText (ds : List Char) (e : Int) : List Char :=
  if e < 0 then '0' :: '.' :: (List.replicate (-e - 1).toNat '0' ++ ds)
  else
    let places := e.toNat + 1
    let whole := ds.take places ++ List.replicate (places - ds.length) '0'
    let fraction := ds.drop places
    whole ++ '.' :: (if fraction.isEmpty then ['0'] else fraction)

/-- One digit, the others behind a point, and the exponent of the first. -/
def scientificText (ds : List Char) (e : Int) : List Char :=
  let fraction := if ds.length ≤ 1 then [] else '.' :: ds.drop 1
  let sign := if e < 0 then '-' else '+'
  ds.take 1 ++ fraction ++ 'e' :: sign :: e.natAbs.repr.toList

/-- The decimal in writing, without trailing zeros among its digits. -/
def text (d : Decimal) : List Char :=
  let written := d.digits.repr.toList
  let e := d.exponent + written.length - 1
  let ds := (written.reverse.dropWhile (· == '0')).reverse
  if positional e then positionalText ds e else scientificText ds e

end Decimal

/-- A binary64 number in writing; both zeros keep their sign. -/
def Binary64.text (x : Binary64) : String :=
  let magnitude := if x.units = 0 then "0.0".toList else x.shortest.text
  String.ofList (if x.negative then '-' :: magnitude else magnitude)

def Number.text : Number → String
  | .whole n => if n.val < 0 then "-" ++ n.val.natAbs.repr else n.val.natAbs.repr
  | .binary x => x.text

end Proviso
