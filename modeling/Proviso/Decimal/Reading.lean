/-
  Proviso/Decimal/Reading.lean
  ============================
  **Reading numbers**: an optional minus, an integral part without leading zeros, an optional
  fraction and an optional exponent.

  A number without fraction and exponent is kept as a whole number if it fits 64 bits; minus zero
  and every other number are rounded to binary64 once, from their exact decimal value.
-/
import Proviso.Decimal.Text
import Proviso.Text.Digits

namespace Proviso

namespace Decimal

/-- The binary64 number nearest to the decimal, if the format reaches that far.  Decimals that
    leave the format by their order of magnitude alone are decided by it. -/
def toBinary64? (negative : Bool) (d : Decimal) : Option Binary64 :=
  let order := d.exponent + d.digits.repr.length
  if d.digits = 0 ∨ order < -330 then some ⟨negative, 0⟩
  else if 310 < order then none
  else
    let num := d.digits * Nat.pow 10 d.exponent.toNat
    Binary64.nearest? negative num (Nat.pow 10 (-d.exponent).toNat)

end Decimal

/-- The parts of a written number. -/
structure NumberParts where
  negative : Bool
  integral : List Char
  fraction : Option (List Char)
  exponent : Option Int
  deriving Repr

namespace NumberParts

/-- An exponent: an optional sign and at least one digit. -/
def readExponent? (cs : List Char) : Option Int :=
  let signed (negative : Bool) (ds : List Char) : Option Int :=
    if ds.isEmpty || !ds.all Char.isDigit then none
    else some (if negative then -(Text.decimalNumber ds : Int) else Text.decimalNumber ds)
  match cs with
  | '-' :: ds => signed true ds
  | '+' :: ds => signed false ds
  | ds => signed false ds

/-- The exponent part, which is empty or starts with `e` or `E`. -/
def readTail? (cs : List Char) : Option (Option Int) :=
  match cs with
  | [] => some none
  | c :: rest => if c == 'e' || c == 'E' then (readExponent? rest).map some else none

/-- Splits a written number into its parts. -/
def read? (cs : List Char) : Option NumberParts :=
  let (negative, cs) := match cs with
    | '-' :: rest => (true, rest)
    | _ => (false, cs)
  let integral := cs.takeWhile Char.isDigit
  let rest := cs.dropWhile Char.isDigit
  if integral.isEmpty || (1 < integral.length && integral.head? == some '0') then none
  else match rest with
    | '.' :: rest =>
      let fraction := rest.takeWhile Char.isDigit
      if fraction.isEmpty then none
      else (readTail? (rest.dropWhile Char.isDigit)).map fun exponent =>
        ⟨negative, integral, some fraction, exponent⟩
    | rest => (readTail? rest).map fun exponent => ⟨negative, integral, none, exponent⟩

/-- The decimal that the parts spell, without the sign. -/
def decimal (p : NumberParts) : Decimal :=
  let fraction := p.fraction.getD []
  ⟨Text.decimalNumber (p.integral ++ fraction), p.exponent.getD 0 - fraction.length⟩

/-- The number the parts denote. -/
def number? (p : NumberParts) : Option Number :=
  let binary := (p.decimal.toBinary64? p.negative).map Number.binary
  if p.fraction.isSome || p.exponent.isSome then binary
  else
    let n := Text.decimalNumber p.integral
    if p.negative && n == 0 then binary
    else match Whole.ofInt? (if p.negative then -n else n) with
      | some w => some (.whole w)
      | none => binary

end NumberParts

def Number.read? (cs : List Char) : Option Number := do (← NumberParts.read? cs).number?

/-! ### Corners of the grammar -/

example : Number.read? "-0".toList = some (.binary ⟨true, 0⟩) := by decide +kernel
example : Number.read? "18446744073709551615".toList = some (.whole { val := 0xffffffffffffffff }) := by
  decide +kernel
example : Number.read? "01".toList = none := by decide +kernel
example : Number.read? "1.".toList = none := by decide +kernel
example : Number.read? "1e400".toList = none := by decide +kernel
example : Number.read? "2e-324".toList = some (.binary ⟨false, 0⟩) := by decide +kernel
example : Number.read? "3e-324".toList = some (.binary ⟨false, 1⟩) := by decide +kernel

end Proviso
