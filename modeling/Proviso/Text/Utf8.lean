/-
  Proviso/Text/Utf8.lean
  ======================
  **UTF-8**: characters as rows of bytes, and ranges of characters as rows of ranges of bytes.

  A row of byte ranges stands for all rows of bytes with one from each.  A range of characters is
  cut first where the length of their encodings changes, then at multiples of 64, 4096 and
  262144, since the characters between two such multiples are those with the same leading bytes.
-/
import Proviso.Unicode.Ranges

namespace Proviso.Text.Utf8

/-- The byte with the `i`-th six bits of `n`, counted from the end. -/
def continuation (n i : Nat) : Nat := 0x80 + (n >>> (6 * i)) % 64

/-- The bytes of the code point `n`. -/
def encode (n : Nat) : List Nat :=
  if n < 0x80 then [n]
  else if n < 0x800 then [0xc0 + (n >>> 6), continuation n 0]
  else if n < 0x10000 then [0xe0 + (n >>> 12), continuation n 1, continuation n 0]
  else [0xf0 + (n >>> 18), continuation n 2, continuation n 1, continuation n 0]

/-- Ranges of characters by the length of their encodings, with the multiples at which rows of
    byte ranges are cut. -/
def lengths : List ((Nat × Nat) × List Nat) :=
  [((0, 0x7f), []), ((0x80, 0x7ff), [64]), ((0x800, 0xd7ff), [64, 4096]),
   ((0xe000, 0xffff), [64, 4096]), ((0x10000, 0x10ffff), [64, 4096, 262144])]

/-- The code points from `a` to `b`, cut into the beginning of a block, whole blocks and the end
    of a block, where the whole blocks are cut again into larger ones. -/
def cut : List Nat → Nat → Nat → List (Nat × Nat)
  | [], a, b => [(a, b)]
  | block :: larger, a, b =>
    let first := a / block
    let last := b / block
    if first = last then [(a, b)]
    else
      let front := if a % block = 0 then [] else [(a, (first + 1) * block - 1)]
      let back := if b % block = block - 1 then [] else [(last * block, b)]
      let lo := if a % block = 0 then a else (first + 1) * block
      let hi := if b % block = block - 1 then b else last * block - 1
      front ++ (if lo ≤ hi then cut larger lo hi else []) ++ back

/-- The rows of byte ranges for a range of characters, in ascending order. -/
def rows (r : Nat × Nat) : List (List (Nat × Nat)) :=
  lengths.flatMap fun ((lo, hi), blocks) =>
    let a := max r.1 lo
    let b := min r.2 hi
    if a ≤ b then (cut blocks a b).map fun (a, b) => (encode a).zip (encode b) else []

/-! ### One row where all leading bytes agree, more where they do not -/

example : encode 0x20ac = [0xe2, 0x82, 0xac] := by decide +kernel
example : rows (0xe9, 0xf4) = [[(0xc3, 0xc3), (0xa9, 0xb4)]] := by decide +kernel
example : rows (0x7e, 0x100) =
    [[(0x7e, 0x7f)], [(0xc2, 0xc3), (0x80, 0xbf)], [(0xc4, 0xc4), (0x80, 0x80)]] := by
  decide +kernel

end Proviso.Text.Utf8
