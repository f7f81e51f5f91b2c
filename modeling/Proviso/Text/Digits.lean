/-
  Proviso/Text/Digits.lean
  ========================
  **Digits**, decimal and hexadecimal, and characters by code point.
-/

namespace Proviso.Text

/-- The value of a row of decimal digits. -/
def decimalNumber (ds : List Char) : Nat :=
  ds.foldl (fun n c => 10 * n + (c.toNat - '0'.toNat)) 0

/-- `n` in lower-case hexadecimal, without leading zeros. -/
def hexDigits (n : Nat) : List Char := Nat.toDigits 16 n

/-- `n` in lower-case hexadecimal, with zeros in front up to `width` digits. -/
def hexPadded (width n : Nat) : List Char :=
  List.replicate (width - (hexDigits n).length) '0' ++ hexDigits n

/-- The value of a hexadecimal digit of either case. -/
def hexValue? (c : Char) : Option Nat :=
  if '0' ≤ c ∧ c ≤ '9' then some (c.toNat - '0'.toNat)
  else if 'a' ≤ c ∧ c ≤ 'f' then some (c.toNat - 'a'.toNat + 10)
  else if 'A' ≤ c ∧ c ≤ 'F' then some (c.toNat - 'A'.toNat + 10)
  else none

/-- The value of a row of hexadecimal digits, read on from `n`. -/
def hexNumber? (n : Nat) : List Char → Option Nat
  | [] => some n
  | c :: rest => do hexNumber? (16 * n + (← hexValue? c)) rest

/-- The character with the code point `n`, if `n` is one. -/
def charOf? (n : Nat) : Option Char :=
  if h : n.isValidChar then some (Char.ofNatAux n h) else none

end Proviso.Text
