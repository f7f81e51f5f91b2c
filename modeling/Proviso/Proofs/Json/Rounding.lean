/-
  Proviso/Proofs/Json/Rounding.lean
  =================================
  **Rounding to binary64 is to the nearest number, and to the even one of two.**

  What is `Closest` to a rational among the values of a type is told once for all three kinds of
  candidates: whole numbers (`closest_divNearest`), the magnitudes of the format by their index
  (`closest_nearestIndex`), and the numbers with their signs (`nearestTo_of_nearest?`).  From one
  kind to the next the candidates grow, but every new one is farther away
  (`Closest.of_candidates`): on the scale that rounding picks, a magnitude either is a whole
  number of spacings or lies in a lower binade, and a number of the other sign lies beyond zero.

  Of the rounding of a whole number this file says three things more, on which the order of
  numbers rests: it exists for every 64-bit word, it is a whole number, and no number of the
  format lies between the two (`Closest.le_of_le`, `Closest.ge_of_ge`).
-/
import Mathlib.Algebra.Order.Field.Rat
import Mathlib.Tactic.FieldSimp
import Mathlib.Tactic.Linarith
import Mathlib.Tactic.Positivity
import Mathlib.Tactic.Ring
import Proviso.Json.Number

namespace Proviso

/-! ### The closest of many -/

/-- Nothing is closer to `q` than `a`, and if something else is just as close then `a` is even. -/
structure Closest {α : Type} (value : α → ℚ) (even : α → Prop) (q : ℚ) (a : α) : Prop where
  le : ∀ b, |value a - q| ≤ |value b - q|
  even : ∀ b, value b ≠ value a → |value b - q| = |value a - q| → even a

namespace Closest

variable {α β : Type} {value : α → ℚ} {even : α → Prop} {q : ℚ} {a : α}

theorem scale (h : Closest value even q a) {c : ℚ} (hc : c ≠ 0) :
    Closest (fun b => value b * c) even (q * c) a := by
  have hdist : ∀ b, |value b * c - q * c| = |value b - q| * |c| := by
    intro b
    rw [← sub_mul, abs_mul]
  have hpos : 0 < |c| := abs_pos.mpr hc
  constructor
  · intro b
    rw [hdist, hdist]
    exact mul_le_mul_of_nonneg_right (h.le b) hpos.le
  · intro b hne htie
    rw [hdist, hdist] at htie
    apply h.even b
    · intro heq
      apply hne
      rw [heq]
    · exact mul_right_cancel₀ hpos.ne' htie

/-- More candidates change nothing if all that are new are farther away. -/
theorem of_candidates (h : Closest value even q a) {value' : β → ℚ} {even' : β → Prop} {b : β}
    (hb : value' b = value a) (heven : even a → even' b)
    (hnew : ∀ c, (∃ a', value' c = value a') ∨ |value' b - q| < |value' c - q|) :
    Closest value' even' q b := by
  constructor
  · intro c
    rcases hnew c with ⟨a', hc⟩ | hfar
    · rw [hb, hc]
      exact h.le a'
    · exact hfar.le
  · intro c hne htie
    rcases hnew c with ⟨a', hc⟩ | hfar
    · rw [hb, hc] at hne htie
      exact heven (h.even a' hne htie)
    · exact absurd htie hfar.ne'

theorem le_of_le (h : Closest value even q a) {b : α} (hb : q ≤ value b) :
    value a ≤ value b := by
  have hle := h.le b
  rw [abs_of_nonneg (sub_nonneg.mpr hb)] at hle
  have hself := le_abs_self (value a - q)
  linarith

theorem ge_of_ge (h : Closest value even q a) {b : α} (hb : value b ≤ q) :
    value b ≤ value a := by
  have hle := h.le b
  rw [abs_of_nonpos (sub_nonpos.mpr hb)] at hle
  have hself := neg_abs_le (value a - q)
  linarith

end Closest

namespace Binary64

/-! ### Quotients to whole numbers -/

theorem divNearest_cases (num den : Nat) :
    (divNearest num den = num / den ∧ 2 * (num % den) ≤ den) ∨
      (divNearest num den = num / den + 1 ∧ den ≤ 2 * (num % den)) := by
  unfold divNearest
  cases h : Ord.compare (2 * (num % den)) den with
  | lt => exact Or.inl ⟨rfl, (Nat.compare_eq_lt.mp h).le⟩
  | gt => exact Or.inr ⟨rfl, (Nat.compare_eq_gt.mp h).le⟩
  | eq =>
    have hhalf := Nat.compare_eq_eq.mp h
    rcases Nat.mod_two_eq_zero_or_one (num / den) with heven | hodd
    · exact Or.inl ⟨by simp [heven], hhalf.le⟩
    · exact Or.inr ⟨by simp [hodd], hhalf.ge⟩

theorem even_divNearest {num den : Nat} (h : 2 * (num % den) = den) :
    Even (divNearest num den) := by
  have hc : Ord.compare (2 * (num % den)) den = .eq := Nat.compare_eq_eq.mpr h
  simp only [divNearest, hc, Nat.even_iff]
  omega

/-- A quotient is off its rounding by a half at most, and by a half only where that is even. -/
theorem abs_divNearest_sub (num : Nat) {den : Nat} (h : 0 < den) :
    |(divNearest num den : ℚ) - num / den| ≤ 1 / 2 ∧
      (|(divNearest num den : ℚ) - num / den| = 1 / 2 → Even (divNearest num den)) := by
  have hden : (0 : ℚ) < den := by exact_mod_cast h
  have hlt : ((num % den : Nat) : ℚ) < den := by exact_mod_cast Nat.mod_lt num h
  have hq : (num : ℚ) / den = (num / den : Nat) + (num % den : Nat) / den := by
    field_simp
    exact_mod_cast (Nat.div_add_mod num den).symm
  rcases divNearest_cases num den with ⟨hk, hle⟩ | ⟨hk, hle⟩
  · have habs : |(divNearest num den : ℚ) - num / den| = (num % den : Nat) / den := by
      rw [hk, hq, sub_add_cancel_left, abs_neg, abs_of_nonneg (by positivity)]
    have hle' : 2 * ((num % den : Nat) : ℚ) ≤ den := by exact_mod_cast hle
    rw [habs]
    constructor
    · rw [div_le_div_iff₀ hden two_pos]
      linarith
    · intro heq
      rw [div_eq_div_iff hden.ne' two_ne_zero] at heq
      have heq' : 2 * ((num % den : Nat) : ℚ) = den := by linarith
      apply even_divNearest
      exact_mod_cast heq'
  · have habs : |(divNearest num den : ℚ) - num / den| = (den - (num % den : Nat)) / den := by
      have hfrac : ((num % den : Nat) : ℚ) / den ≤ 1 := (div_le_one hden).mpr hlt.le
      rw [hk, hq, abs_of_nonneg, sub_div, div_self hden.ne']
      · push_cast
        ring
      · push_cast
        linarith
    have hle' : (den : ℚ) ≤ 2 * (num % den : Nat) := by exact_mod_cast hle
    rw [habs]
    constructor
    · rw [div_le_div_iff₀ hden two_pos]
      linarith
    · intro heq
      rw [div_eq_div_iff hden.ne' two_ne_zero] at heq
      have heq' : 2 * ((num % den : Nat) : ℚ) = den := by linarith
      apply even_divNearest
      exact_mod_cast heq'

theorem closest_divNearest (num : Nat) {den : Nat} (h : 0 < den) :
    Closest (fun m : Nat => (m : ℚ)) Even (num / den) (divNearest num den) := by
  obtain ⟨hhalf, heven⟩ := abs_divNearest_sub num h
  -- any other whole number is at least one away from the rounding
  have hother : ∀ m : Nat, (m : ℚ) ≠ divNearest num den → 1 / 2 ≤ |(m : ℚ) - num / den| := by
    intro m hm
    have hne : (m : ℤ) - divNearest num den ≠ 0 := by
      intro h0
      apply hm
      exact_mod_cast sub_eq_zero.mp h0
    have hone : (1 : ℚ) ≤ |(m : ℚ) - divNearest num den| := by
      exact_mod_cast Int.one_le_abs hne
    have htriangle := abs_sub_le (m : ℚ) (num / den) (divNearest num den)
    rw [abs_sub_comm (num / den : ℚ)] at htriangle
    linarith
  constructor
  · intro m
    by_cases hm : (m : ℚ) = divNearest num den
    · rw [hm]
    · exact hhalf.trans (hother m hm)
  · intro m hm htie
    apply heven
    exact le_antisymm hhalf (htie ▸ hother m hm)

/-! ### Magnitudes by their index -/

/-- The magnitude at an index, in units. -/
def unitsAt (i : Nat) : Nat :=
  (if i < binade then i else binade + i % binade) <<< (i / binade - 1)

theorem units_eq_unitsAt (x : Binary64) : x.units = unitsAt x.index := rfl

/-- A significand that is full, or any at the smallest spacing, is found again behind the index.
    One past the largest belongs to the next binade, where the spacing is twice as large. -/
theorem unitsAt_eq {s m : Nat} (hm : m ≤ 2 * binade) (hs : s = 0 ∨ binade ≤ m) :
    unitsAt (s * binade + m) = m * 2 ^ s := by
  unfold binade at hm hs
  rw [unitsAt, Nat.shiftLeft_eq]
  unfold binade
  rcases Nat.lt_or_ge m 0x10000000000000 with hsubnormal | hfull
  · have hs : s = 0 := by omega
    subst hs
    simp [hsubnormal, Nat.div_eq_of_lt hsubnormal]
  · rw [if_neg (by omega)]
    rcases Nat.lt_or_ge m 0x20000000000000 with hlt | hcarry
    · have hdiv : (s * 0x10000000000000 + m) / 0x10000000000000 = s + 1 := by omega
      have hmod : 0x10000000000000 + (s * 0x10000000000000 + m) % 0x10000000000000 = m := by
        omega
      rw [hdiv, hmod, Nat.add_sub_cancel]
    · have hm : m = 2 * 0x10000000000000 := by omega
      have hdiv : (s * 0x10000000000000 + m) / 0x10000000000000 = s + 1 + 1 := by omega
      have hmod : (s * 0x10000000000000 + m) % 0x10000000000000 = 0 := by omega
      rw [hdiv, hmod, hm, Nat.add_sub_cancel, Nat.pow_succ]
      ring

theorem exists_significand (i : Nat) : ∃ s m, m < 2 * binade ∧ unitsAt i = m * 2 ^ s := by
  unfold binade
  rcases Nat.lt_or_ge i 0x10000000000000 with hsubnormal | hnormal
  · refine ⟨0, i, by omega, ?_⟩
    rw [← unitsAt_eq (by unfold binade; omega) (Or.inl rfl), Nat.zero_mul, Nat.zero_add]
  · refine ⟨i / 0x10000000000000 - 1, 0x10000000000000 + i % 0x10000000000000, by omega, ?_⟩
    rw [← unitsAt_eq (by unfold binade; omega) (Or.inr (by unfold binade; omega))]
    congr 1
    unfold binade
    omega

/-- At the spacing `2 ^ s` a magnitude is on the grid, or it lies below every full significand. -/
theorem unitsAt_grid (s i : Nat) :
    (∃ m, unitsAt i = m * 2 ^ s) ∨ (0 < s ∧ unitsAt i < binade * 2 ^ s) := by
  obtain ⟨t, m, hm, hmag⟩ := exists_significand i
  rw [hmag]
  rcases Nat.lt_or_ge t s with hts | hst
  · right
    refine ⟨Nat.zero_lt_of_lt hts, ?_⟩
    calc m * 2 ^ t < 2 * binade * 2 ^ t := Nat.mul_lt_mul_of_pos_right hm (Nat.two_pow_pos t)
      _ = binade * 2 ^ (t + 1) := by rw [Nat.pow_succ]; ring
      _ ≤ binade * 2 ^ s := Nat.mul_le_mul_left _ (Nat.pow_le_pow_right two_pos hts)
  · left
    refine ⟨m * 2 ^ (t - s), ?_⟩
    rw [Nat.mul_assoc, ← Nat.pow_add, Nat.sub_add_cancel hst]

/-! ### Quotients to magnitudes -/

theorem significand_bounds (n : Nat) : n / 2 ^ (n.log2 - 52) < 2 * binade ∧
    (n.log2 - 52 = 0 ∨ binade ≤ n / 2 ^ (n.log2 - 52)) := by
  have hcarry : 2 * binade = 2 ^ 53 := rfl
  have hfull : binade = 2 ^ 52 := rfl
  constructor
  · have hlog : n < 2 ^ (n.log2 + 1) := Nat.lt_log2_self
    rw [hcarry, Nat.div_lt_iff_lt_mul (Nat.two_pow_pos _), ← Nat.pow_add]
    exact hlog.trans_le (Nat.pow_le_pow_right two_pos (by omega))
  · rcases Nat.lt_or_ge 52 n.log2 with hlarge | hsmall
    · right
      have hn : n ≠ 0 := by
        rintro rfl
        simp at hlarge
      rw [hfull, Nat.le_div_iff_mul_le (Nat.two_pow_pos _), ← Nat.pow_add,
        Nat.add_sub_cancel' hlarge.le]
      exact Nat.log2_self_le hn
    · left
      omega

/-- Rounding picks a spacing at which the quotient has a full significand, or the smallest one, and
    rounds to a multiple of it. -/
theorem exists_spacing (num den : Nat) : ∃ s r : Nat,
    r = divNearest (num * one) (den * 2 ^ s) ∧ nearestIndex num den = s * binade + r ∧
      unitsAt (nearestIndex num den) = r * 2 ^ s ∧ r ≤ 2 * binade ∧
      (0 < s → binade * 2 ^ s * den ≤ num * one) := by
  obtain ⟨s, hs⟩ : ∃ s, s = Nat.log2 (num * one / den) - 52 := ⟨_, rfl⟩
  obtain ⟨hlt, hge⟩ := significand_bounds (num * one / den)
  rw [← hs, Nat.div_div_eq_div_mul] at hlt hge
  have hindex : nearestIndex num den = s * binade + divNearest (num * one) (den * 2 ^ s) := by
    rw [nearestIndex, hs, Nat.shiftLeft_eq]
  have hbounds : divNearest (num * one) (den * 2 ^ s) ≤ 2 * binade ∧
      (s = 0 ∨ binade ≤ divNearest (num * one) (den * 2 ^ s)) := by
    rcases divNearest_cases (num * one) (den * 2 ^ s) with ⟨hr, -⟩ | ⟨hr, -⟩
    · rw [hr]
      exact ⟨hlt.le, hge⟩
    · rw [hr]
      exact ⟨hlt, hge.imp_right Nat.le_succ_of_le⟩
  refine ⟨s, _, rfl, hindex, ?_, hbounds.1, ?_⟩
  · rw [hindex, unitsAt_eq hbounds.1 hbounds.2]
  · intro hpos
    have hfull := Nat.mul_le_of_le_div _ _ _ (hge.resolve_left hpos.ne')
    calc binade * 2 ^ s * den = binade * (den * 2 ^ s) := by ring
      _ ≤ num * one := hfull

theorem closest_nearestIndex (num : Nat) {den : Nat} (h : 0 < den) :
    Closest (fun i : Nat => (unitsAt i : ℚ)) Even ((num * one : Nat) / den)
      (nearestIndex num den) := by
  obtain ⟨s, r, hr, hindex, hmag, -, hfull⟩ := exists_spacing num den
  have hden : (0 : ℚ) < den := by exact_mod_cast h
  have hpow : (2 ^ s : ℚ) ≠ 0 := by positivity
  have hgrid := (closest_divNearest (num * one) (Nat.mul_pos h (Nat.two_pow_pos s))).scale hpow
  have hq : ((num * one : Nat) : ℚ) / (den * 2 ^ s : Nat) * 2 ^ s = (num * one : Nat) / den := by
    push_cast
    field_simp
  rw [hq, ← hr] at hgrid
  have hvalue : (unitsAt (nearestIndex num den) : ℚ) = r * 2 ^ s := by
    rw [hmag]
    push_cast
    rfl
  refine hgrid.of_candidates hvalue ?_ ?_
  · intro heven
    have hbinade : Even binade := by decide
    rw [hindex]
    exact (hbinade.mul_left s).add heven
  · intro j
    rcases unitsAt_grid s j with ⟨m, hm⟩ | ⟨hpos, hj⟩
    · left
      refine ⟨m, ?_⟩
      rw [hm]
      push_cast
      rfl
    · -- what lies below the binade is farther away than the bottom of the binade
      right
      have hbottom : (binade * 2 ^ s : ℚ) ≤ (num * one : Nat) / den := by
        rw [le_div_iff₀ hden]
        exact_mod_cast hfull hpos
      have hj' : (unitsAt j : ℚ) < binade * 2 ^ s := by exact_mod_cast hj
      rw [hvalue]
      refine (hgrid.le binade).trans_lt ?_
      rw [abs_sub_comm, abs_of_nonneg (sub_nonneg.mpr hbottom), abs_sub_comm,
        abs_of_nonneg (sub_nonneg.mpr (hj'.le.trans hbottom))]
      exact sub_lt_sub_left hj' _

/-! ### Quotients to numbers -/

/-- The exact value. -/
def value (x : Binary64) : ℚ := x.signedUnits / one

theorem exists_one_eq : ∃ e, e = 1074 ∧ one = 2 ^ e := by
  obtain ⟨e, he⟩ : ∃ e, e = 1074 := ⟨_, rfl⟩
  refine ⟨e, he, ?_⟩
  rw [← Nat.one_shiftLeft, he]

theorem value_eq (x : Binary64) :
    x.value = unitsAt x.index * ((if x.negative then -1 else 1) / one) := by
  rw [value, signedUnits, units_eq_unitsAt]
  cases x.negative with
  | true => simp [div_eq_mul_inv]
  | false => simp [div_eq_mul_inv]

/-- `x` is the rounding of `q`: nothing of the format is closer, and the fraction field of `x` is
    even if something else is just as close. -/
def NearestTo (q : ℚ) (x : Binary64) : Prop := Closest value (fun x => Even x.index.val) q x

theorem nearestTo_of_nearest? {negative : Bool} {num den : Nat} {x : Binary64} (h : 0 < den)
    (hx : nearest? negative num den = some x) :
    x.NearestTo ((if negative then -1 else 1) * (num / den)) := by
  obtain ⟨c, hc⟩ : ∃ c : ℚ, c = (if negative then -1 else 1) / one := ⟨_, rfl⟩
  have hc0 : c ≠ 0 := by
    rw [hc]
    cases negative <;> simp
  obtain ⟨q, hq⟩ : ∃ q : ℚ, q = (num * one : Nat) / den := ⟨_, rfl⟩
  have hq0 : 0 ≤ q := by
    rw [hq]
    exact div_nonneg (Nat.cast_nonneg _) (Nat.cast_nonneg _)
  have htarget : (if negative then -1 else 1) * ((num : ℚ) / den) = q * c := by
    rw [hq, hc]
    push_cast
    field_simp
  rw [nearest?] at hx
  split at hx
  · next hfinite =>
    cases hx
    have hx : value ⟨negative, ⟨nearestIndex num den, hfinite⟩⟩ =
        unitsAt (nearestIndex num den) * c := by
      rw [value_eq, hc]
    have hgrid := (closest_nearestIndex num h).scale hc0
    rw [← hq] at hgrid
    rw [htarget]
    refine hgrid.of_candidates hx id ?_
    intro y
    by_cases hsign : y.negative = negative
    · left
      exact ⟨y.index, by rw [value_eq, hsign, hc]⟩
    · have hy : y.value = -(unitsAt y.index * c) := by
        rw [value_eq, Bool.eq_not.mpr hsign, hc]
        cases negative <;> simp [neg_div]
      have hzero : unitsAt 0 = 0 := by simp [unitsAt]
      rcases Nat.eq_zero_or_pos (unitsAt y.index) with hmag | hpos
      · left
        refine ⟨0, ?_⟩
        rw [hy, hmag, hzero]
        simp
      · -- the other sign, and so farther away than zero
        right
        have hmag : (0 : ℚ) < unitsAt y.index := by exact_mod_cast hpos
        rw [hx, hy]
        refine (hgrid.le 0).trans_lt ?_
        rw [hzero, Nat.cast_zero, zero_mul, zero_sub, abs_neg, ← neg_add', abs_neg, ← add_mul,
          abs_mul, abs_mul, abs_of_nonneg hq0, abs_of_pos (add_pos_of_pos_of_nonneg hmag hq0)]
        exact mul_lt_mul_of_pos_right (lt_add_of_pos_left q hmag) (abs_pos.mpr hc0)
  · cases hx

/-! ### Whole numbers -/

theorem nearestTo_of_ofInt? {n : Int} {x : Binary64} (hx : ofInt? n = some x) :
    x.NearestTo n := by
  have hn : (if decide (n < 0) then -1 else 1) * ((n.natAbs : ℚ) / (1 : Nat)) = n := by
    rw [Nat.cast_natAbs, Nat.cast_one, div_one]
    rcases lt_or_ge n 0 with hneg | hpos
    · simp [hneg, abs_of_neg hneg]
    · simp [hpos, abs_of_nonneg hpos]
  have hnear := nearestTo_of_nearest? Nat.one_pos hx
  rw [hn] at hnear
  exact hnear

theorem exists_ofInt? {n : Int} (h : n.natAbs ≤ 0x10000000000000000) :
    ∃ x, ofInt? n = some x := by
  obtain ⟨s, r, -, hindex, -, hr, hfull⟩ := exists_spacing n.natAbs 1
  have hs : s ≤ 1086 := by
    rcases Nat.eq_zero_or_pos s with rfl | hpos
    · omega
    · obtain ⟨e, he, hone⟩ := exists_one_eq
      have hpow : 2 ^ (52 + s) ≤ 2 ^ (64 + e) := by
        calc 2 ^ (52 + s) = binade * 2 ^ s * 1 := by rw [Nat.pow_add, Nat.mul_one]
          _ ≤ n.natAbs * one := hfull hpos
          _ ≤ 2 ^ 64 * one := Nat.mul_le_mul_right one h
          _ = 2 ^ (64 + e) := by rw [hone, ← Nat.pow_add]
      have hle := (Nat.pow_le_pow_iff_right (by decide)).mp hpow
      omega
  have hfinite : nearestIndex n.natAbs 1 < infinityIndex := by
    rw [hindex]
    unfold binade infinityIndex at *
    omega
  rw [ofInt?, nearest?, dif_pos hfinite]
  exact ⟨_, rfl⟩

/-- The rounding of a whole number is whole: either the spacing divides it, or one divides the
    spacing. -/
theorem one_dvd_unitsAt_nearestIndex (n : Nat) : one ∣ unitsAt (nearestIndex n 1) := by
  obtain ⟨s, r, hr, -, hmag, -, -⟩ := exists_spacing n 1
  obtain ⟨e, -, hone⟩ := exists_one_eq
  rw [Nat.one_mul] at hr
  rw [hmag]
  rcases Nat.le_total s e with hle | hge
  · have hdvd : 2 ^ s ∣ n * one := by
      rw [hone]
      exact Dvd.dvd.mul_left (Nat.pow_dvd_pow 2 hle) n
    have hexact : r = n * one / 2 ^ s := by
      rw [hr]
      rcases divNearest_cases (n * one) (2 ^ s) with ⟨h, -⟩ | ⟨-, h⟩
      · exact h
      · rw [Nat.mod_eq_zero_of_dvd hdvd] at h
        exact absurd h (Nat.not_le_of_lt (Nat.two_pow_pos s))
    rw [hexact, Nat.div_mul_cancel hdvd]
    exact Nat.dvd_mul_left one n
  · rw [hone]
    exact Dvd.dvd.mul_left (Nat.pow_dvd_pow 2 hge) r

theorem isWhole_of_ofInt? {n : Int} {x : Binary64} (hx : ofInt? n = some x) :
    x.isWhole = true := by
  rw [ofInt?, nearest?] at hx
  split at hx
  · cases hx
    rw [isWhole, beq_iff_eq, units_eq_unitsAt]
    exact Nat.mod_eq_zero_of_dvd (one_dvd_unitsAt_nearestIndex n.natAbs)
  · cases hx

end Binary64

end Proviso
