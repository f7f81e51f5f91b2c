/-
  Proviso/Proofs/Json/Magnitude.lean
  ==================================
  **Numbers compare as the rationals they denote.**

  Two integers are compared exactly.  Any other pair is rounded to binary64 first, which changes a
  whole number beyond 2^53.  But then the other number has a fraction, or lies beyond the limit
  for exact integers, and rounding never carries a word to the other side of such a number
  (`sameSide_of_ofInt?`): neither the word nor its rounding has a fraction, and neither comes near
  the limit.

  So the order of numbers is that of their values (`compare?_eq`), and all that is said of it
  follows: it is total, `agrees` is its equality, and a number that is both at least and at most a
  bound is equal to it.
-/
import Mathlib.Order.Compare
import Proviso.Check.Comparison
import Proviso.Proofs.Json.Rounding

namespace Proviso

namespace Binary64

theorem one_pos : (0 : ℚ) < one := by
  norm_num

theorem compare_eq (x y : Binary64) : x.compare y = Ord.compare x.value y.value := by
  have hmono : StrictMono fun n : Int => (n : ℚ) / one := by
    intro m n hmn
    exact div_lt_div_of_pos_right (by exact_mod_cast hmn) one_pos
  rw [compare, ← cmp_eq_compare, ← cmp_eq_compare]
  exact (hmono.cmp_map_eq _ _).symm

theorem value_eq_intCast_iff {x : Binary64} {n : Int} :
    x.value = n ↔ x.signedUnits = n * one := by
  rw [value, div_eq_iff one_pos.ne', ← Int.cast_natCast one, ← Int.cast_mul, Int.cast_inj]

theorem isWhole_iff {x : Binary64} : x.isWhole = true ↔ ∃ n : Int, x.value = n := by
  have hunits : x.signedUnits.natAbs = x.units := by
    rw [signedUnits]
    split <;> simp
  rw [isWhole, beq_iff_eq, ← hunits, ← Nat.dvd_iff_mod_eq_zero, ← Int.ofNat_dvd_left]
  constructor
  · rintro ⟨n, hn⟩
    exact ⟨n, value_eq_intCast_iff.mpr (by rw [hn, Int.mul_comm])⟩
  · rintro ⟨n, hn⟩
    exact ⟨n, by rw [value_eq_intCast_iff.mp hn, Int.mul_comm]⟩

theorem truncate_of_value {x : Binary64} {n : Int} (h : x.value = n) : x.truncate = n := by
  have hone : (one : Int) ≠ 0 := by decide
  rw [truncate, value_eq_intCast_iff.mp h, Int.mul_tdiv_cancel n hone]

theorem abs_value (x : Binary64) : |x.value| = x.units / one := by
  rw [value, signedUnits, abs_div, abs_of_pos one_pos]
  split <;> simp

theorem nearestTo_value (x : Binary64) : x.NearestTo x.value := by
  constructor
  · intro y
    rw [sub_self, abs_zero]
    exact abs_nonneg _
  · intro y hne htie
    rw [sub_self, abs_zero, abs_eq_zero] at htie
    exact absurd (sub_eq_zero.mp htie) hne

/-- A word and its rounding are on the same side of a number that is not compared as an integer. -/
theorem sameSide_of_ofInt? {n : Whole} {x y : Binary64} (hx : ofInt? n.val = some x)
    (hy : (Number.binary y).integer? = none) :
    ((n.val : ℚ) < y.value ∧ x.value < y.value) ∨ (y.value < n.val ∧ y.value < x.value) := by
  have hnear := nearestTo_of_ofInt? hx
  by_cases hwhole : y.isWhole
  · have hlimit : (Number.exactLimit : ℚ) ≤ |y.value| := by
      rw [abs_value, le_div_iff₀ one_pos]
      by_contra hlt
      rw [not_le] at hlt
      have hlt : y.units < Number.exactLimit * one := by exact_mod_cast hlt
      simp [Number.integer?, hwhole, hlt] at hy
    -- zero is no closer, so rounding at most doubles a word
    have hlower : (-0x8000000000000000 : ℚ) ≤ n.val := by exact_mod_cast n.lower
    have hupper : (n.val : ℚ) < 0x10000000000000000 := by exact_mod_cast n.upper
    have hzero : value ⟨false, 0, by decide⟩ = 0 := by simp [value_eq, unitsAt]
    have hdouble := hnear.le ⟨false, 0, by decide⟩
    rw [hzero, zero_sub, abs_neg] at hdouble
    have hfar : (Number.exactLimit : ℚ) = 1000000000000000000000000000000 := by norm_num
    rw [hfar] at hlimit
    have hbelow := neg_abs_le (x.value - n.val)
    have habove := le_abs_self (x.value - n.val)
    have hword : |(n.val : ℚ)| ≤ 0x10000000000000000 := by
      rw [abs_le]
      constructor <;> linarith
    rcases le_or_gt 0 y.value with hpos | hneg
    · left
      rw [abs_of_nonneg hpos] at hlimit
      constructor <;> linarith
    · right
      rw [abs_of_neg hneg] at hlimit
      constructor <;> linarith
  · have hfraction : ∀ m : Int, y.value ≠ m := by
      intro m hm
      exact hwhole (isWhole_iff.mpr ⟨m, hm⟩)
    obtain ⟨m, hm⟩ := isWhole_iff.mp (isWhole_of_ofInt? hx)
    rcases lt_or_gt_of_ne (hfraction n.val) with hlt | hgt
    · right
      refine ⟨hlt, lt_of_le_of_ne (hnear.ge_of_ge hlt.le) ?_⟩
      rw [hm]
      exact hfraction m
    · left
      refine ⟨hgt, lt_of_le_of_ne (hnear.le_of_le hgt.le) ?_⟩
      rw [hm]
      exact (hfraction m).symm

end Binary64

namespace Number

/-- The rational a number denotes. -/
def value : Number → ℚ
  | .whole n => n.val
  | .binary x => x.value

theorem value_of_integer? {l : Number} {n : Int} (h : l.integer? = some n) : l.value = n := by
  cases l with
  | whole m =>
    cases h
    rfl
  | binary x =>
    rw [integer?] at h
    split at h
    · next hexact =>
      rw [Bool.and_eq_true] at hexact
      obtain ⟨m, hm⟩ := Binary64.isWhole_iff.mp hexact.1
      cases h
      rw [value, hm, Binary64.truncate_of_value hm]
    · cases h

/-- Every number has a nearest one in binary64. -/
theorem exists_toBinary64? (l : Number) : ∃ x, l.toBinary64? = some x ∧ x.NearestTo l.value := by
  cases l with
  | whole n =>
    have hlower := n.lower
    have hupper := n.upper
    obtain ⟨x, hx⟩ := Binary64.exists_ofInt? (n := n.val) (by omega)
    exact ⟨x, hx, Binary64.nearestTo_of_ofInt? hx⟩
  | binary x => exact ⟨x, rfl, Binary64.nearestTo_value x⟩

/-- Rounding does not change the order of two numbers that are not both compared as integers. -/
theorem compare_value_of_toBinary64? {l r : Number} {x y : Binary64}
    (hinteger : l.integer? = none ∨ r.integer? = none) (hx : l.toBinary64? = some x)
    (hy : r.toBinary64? = some y) :
    Ord.compare x.value y.value = Ord.compare l.value r.value := by
  cases l with
  | whole n =>
    cases r with
    | whole m => rcases hinteger with h | h <;> cases h
    | binary z =>
      cases hy
      have hz : (binary y).integer? = none := by
        rcases hinteger with h | h
        · cases h
        · exact h
      rcases Binary64.sameSide_of_ofInt? hx hz with ⟨hn, hlt⟩ | ⟨hn, hlt⟩
      · exact (compare_lt_iff_lt.mpr hlt).trans (compare_lt_iff_lt.mpr hn).symm
      · exact (compare_gt_iff_gt.mpr hlt).trans (compare_gt_iff_gt.mpr hn).symm
  | binary z =>
    cases hx
    cases r with
    | whole n =>
      have hz : (binary x).integer? = none := by
        rcases hinteger with h | h
        · exact h
        · cases h
      rcases Binary64.sameSide_of_ofInt? hy hz with ⟨hn, hlt⟩ | ⟨hn, hlt⟩
      · exact (compare_gt_iff_gt.mpr hlt).trans (compare_gt_iff_gt.mpr hn).symm
      · exact (compare_lt_iff_lt.mpr hlt).trans (compare_lt_iff_lt.mpr hn).symm
    | binary w =>
      cases hy
      rfl

/-- **The order of numbers is that of their values.** -/
theorem compare?_eq (l r : Number) : l.compare? r = some (Ord.compare l.value r.value) := by
  obtain ⟨x, hx, -⟩ := exists_toBinary64? l
  obtain ⟨y, hy, -⟩ := exists_toBinary64? r
  have hround : (do return (← l.toBinary64?).compare (← r.toBinary64?) : Option Ordering) =
      some (Ord.compare x.value y.value) := by
    rw [hx, hy, ← Binary64.compare_eq]
    rfl
  rw [compare?]
  cases hl : l.integer? with
  | none =>
    dsimp only
    rw [hround, compare_value_of_toBinary64? (Or.inl hl) hx hy]
  | some m =>
    cases hr : r.integer? with
    | none =>
      dsimp only
      rw [hround, compare_value_of_toBinary64? (Or.inr hr) hx hy]
    | some n =>
      dsimp only
      rw [value_of_integer? hl, value_of_integer? hr, ← cmp_eq_compare, ← cmp_eq_compare,
        Int.cast_strictMono.cmp_map_eq]

theorem agrees_iff {l r : Number} : l.agrees r = true ↔ l.value = r.value := by
  rw [agrees, compare?_eq, beq_iff_eq, Option.some_inj, compare_eq_iff_eq]

end Number

/-! ### Bounds -/

namespace Check

variable {v b : Number} {rest : List Json}

theorem orderAgainstBound?_num :
    orderAgainstBound? (.num v) (.num b :: rest) = some (Ord.compare v.value b.value) := by
  rw [← Number.compare?_eq]
  rfl

theorem passes_min : min.passes (.num v) (.num b :: rest) = true ↔ b.value ≤ v.value := by
  simp only [min, plain, orderAgainstBound?_num, Option.any_some]
  rw [← Ordering.ne_lt_iff_isGE]
  exact compare_ge_iff_ge

theorem passes_max : max.passes (.num v) (.num b :: rest) = true ↔ v.value ≤ b.value := by
  simp only [max, plain, orderAgainstBound?_num, Option.any_some]
  rw [← Ordering.ne_gt_iff_isLE]
  exact compare_le_iff_le

theorem passes_equals :
    equals.passes (.num v) (.num b :: rest) = true ↔ v.value = b.value := by
  rw [← Number.agrees_iff]
  rfl

end Check

namespace Number

/-- **Numbers compare as the rationals they denote**, also where they are rounded to binary64 to be
    compared; what is rounded goes to the nearest number, and to the even one of two.  So the
    order is total and has `agrees` as its equality; a number is equal to a bound iff it is both
    at least and at most the bound, and it always is one of the two. -/
theorem compare?_exact :
    (∀ l : Number, ∃ x, l.toBinary64? = some x ∧ x.NearestTo l.value) ∧
    (∀ l r : Number, l.compare? r = some (Ord.compare l.value r.value)) ∧
    (∀ l r : Number, r.compare? l = (l.compare? r).map Ordering.swap) ∧
    (∀ l m r : Number, l.compare? m ≠ some .gt → m.compare? r ≠ some .gt →
      l.compare? r ≠ some .gt) ∧
    (∀ l r : Number, l.compare? r = some .eq ↔ l.value = r.value) ∧
    ∀ (v b : Number) (rest : List Json),
      ((Check.min.passes (.num v) (.num b :: rest) = true ∧
        Check.max.passes (.num v) (.num b :: rest) = true) ↔
        Check.equals.passes (.num v) (.num b :: rest) = true) ∧
      (Check.min.passes (.num v) (.num b :: rest) = true ∨
        Check.max.passes (.num v) (.num b :: rest) = true) := by
  have hle : ∀ l r : Number, l.compare? r ≠ some .gt ↔ l.value ≤ r.value := by
    intro l r
    rw [compare?_eq, ne_eq, Option.some_inj, ← ne_eq, compare_le_iff_le]
  refine ⟨exists_toBinary64?, compare?_eq, ?_, ?_, ?_, ?_⟩
  · intro l r
    rw [compare?_eq, compare?_eq, Option.map_some, ← cmp_eq_compare, ← cmp_eq_compare, cmp_swap]
  · intro l m r hlm hmr
    rw [hle] at hlm hmr ⊢
    exact hlm.trans hmr
  · intro l r
    rw [compare?_eq, Option.some_inj, compare_eq_iff_eq]
  · intro v b rest
    rw [Check.passes_min, Check.passes_max, Check.passes_equals]
    constructor
    · rw [and_comm]
      exact le_antisymm_iff.symm
    · exact le_total b.value v.value

/-- A half below 2^52, and 2^100. -/
def fraction : Number := .binary ⟨false, 1073 * 0x10000000000000 + 0x1fffffffffffff, by decide⟩

def distant : Number := .binary ⟨false, 1123 * 0x10000000000000, by decide⟩

/-- A word that binary64 does not hold, between two numbers that are not compared as integers. -/
def oddWord : Number := .whole ⟨0x20000000000001, by decide, by decide⟩

theorem compare?_exact_oddWord :
    fraction.integer? = none ∧ distant.integer? = none ∧
      fraction.compare? oddWord ≠ some .gt ∧ oddWord.compare? distant ≠ some .gt ∧
      fraction.compare? distant ≠ some .gt := by
  have hlow : fraction.compare? oddWord ≠ some .gt := by decide +kernel
  have hhigh : oddWord.compare? distant ≠ some .gt := by decide +kernel
  obtain ⟨-, -, -, htrans, -⟩ := compare?_exact
  exact ⟨by decide +kernel, by decide +kernel, hlow, hhigh, htrans _ _ _ hlow hhigh⟩

end Number

end Proviso
