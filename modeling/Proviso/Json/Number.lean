/-
  Proviso/Json/Number.lean
  ========================
  **Numbers of a document**: whole numbers of 64 bits kept exactly, everything else in binary64.

  `integer?` reads a number as an integer where that loses nothing, and `compare?` orders two
  numbers by magnitude: integers exactly, other pairs after rounding both to binary64.
-/
import Proviso.Json.Binary64

namespace Proviso

/-- A whole number that fits a signed or an unsigned 64-bit word. -/
structure Whole where
  val : Int
  lower : -0x8000000000000000 ≤ val := by decide
  upper : val < 0x10000000000000000 := by decide
  deriving DecidableEq, Repr

/-- The whole number `n`, if it fits. -/
def Whole.ofInt? (n : Int) : Option Whole :=
  if h : -0x8000000000000000 ≤ n ∧ n < 0x10000000000000000 then some ⟨n, h.1, h.2⟩ else none

/-- A number as a document writes it: without fraction and exponent, or with one of them. -/
inductive Number where
  | whole (n : Whole)
  | binary (x : Binary64)
  deriving DecidableEq, Repr

namespace Number

/-- Whether the fractional part is zero, however the number is written. -/
def isInteger : Number → Bool
  | .whole _ => true
  | .binary x => x.isWhole

/-- The number as a signed 64-bit word, if it is written as a whole number and fits. -/
def toSigned? : Number → Option Int
  | .whole n => if n.val < 0x8000000000000000 then some n.val else none
  | .binary _ => none

/-- The number as a natural number, if it is written as a whole number. -/
def toNat? : Number → Option Nat
  | .whole n => if 0 ≤ n.val then some n.val.toNat else none
  | .binary _ => none

/-- The nearest binary64 number. -/
def toBinary64? : Number → Option Binary64
  | .whole n => Binary64.ofInt? n.val
  | .binary x => some x

/-! ### Order by magnitude -/

/-- Whole binary64 numbers below this magnitude are compared as integers. -/
abbrev exactLimit : Nat := 1000000000000000000000000000000

/-- The integer a number denotes: any whole number, and a binary64 number without fractional
    part that lies below the limit. -/
def integer? : Number → Option Int
  | .whole n => some n.val
  | .binary x =>
    if x.isWhole && decide (x.units < exactLimit * Binary64.one) then some x.truncate else none

/-- Order by magnitude: two integers exactly, any other pair in binary64. -/
def compare? (l r : Number) : Option Ordering :=
  match l.integer?, r.integer? with
  | some m, some n => some (Ord.compare m n)
  | _, _ => do return (← l.toBinary64?).compare (← r.toBinary64?)

/-- Equality by magnitude: `5` and `5.0` are equal. -/
def agrees (l r : Number) : Bool := l.compare? r == some .eq

/-- Equality of number and form: `5` and `5.0` differ, the two zeros do not. -/
def same : Number → Number → Bool
  | .whole m, .whole n => m.val == n.val
  | .binary x, .binary y => x.compare y == .eq
  | _, _ => false

end Number

end Proviso
