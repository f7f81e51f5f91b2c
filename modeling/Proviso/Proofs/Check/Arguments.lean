/-
  Proviso/Proofs/Check/Arguments.lean
  ===================================
  **What checks make of equal arguments.**

  Arguments are equal if they are so by magnitude, one by one: `3` and `3.0` are equal, and so are
  lists and objects that hold the one or the other.  Nearly all built-in checks look at their
  arguments through something that equal ones have in common: the values equal to them, the
  rational they denote, or their text.  Where the arguments are one list, the candidates are its
  items, and equal lists have equal items (`equal_candidates`).

  A bound for a size is different: it has to be written without fraction.  Two equal bounds are the
  same number if both are (`sizeBound?_eq_of_isSome_eq`); if one of them is not, then nothing
  passes under it, while every size that is equal to the bound passes under the other.  So whether
  a check tells two rows of equal arguments apart is decided by their form, for checks of size
  alone (`passes_eq_iff_sizeBound?`).
-/
import Proviso.Proofs.Instruction.Respect

namespace Proviso

/-! ### What equal arguments have in common -/

/-- Equally many arguments, equal by magnitude one by one. -/
abbrev EqualArgs (as bs : List Json) : Prop := List.Forall₂ (fun a b => a.agrees b = true) as bs

namespace Json

/-- A value is equal to either of two equal values, or to neither. -/
theorem agrees_congr_right {x a b : Json} (hx : x.DistinctKeys) (ha : a.DistinctKeys)
    (h : a.agrees b = true) : x.agrees a = x.agrees b := by
  rw [Bool.eq_iff_iff]
  constructor
  · intro hxa
    exact agrees_trans hx hxa h
  · intro hxb
    exact agrees_trans hx hxb (agrees_symm ha h)

theorem exists_eq_arr_of_agrees {l : List Json} {b : Json} (h : (arr l).agrees b = true) :
    ∃ r, b = .arr r := by
  cases b with
  | arr r => exact ⟨r, rfl⟩
  | _ => simp [agrees, equalBy] at h

theorem exists_eq_arr_of_agrees_arr {a : Json} {r : List Json} (h : a.agrees (.arr r) = true) :
    ∃ l, a = .arr l := by
  cases a with
  | arr l => exact ⟨l, rfl⟩
  | _ => simp [agrees, equalBy] at h

theorem number?_of_agrees {a b : Json} (h : a.agrees b = true) :
    (a.number? = none ∧ b.number? = none) ∨
      ∃ m n, a.number? = some m ∧ b.number? = some n ∧ m.value = n.value := by
  cases a with
  | num m =>
    cases b with
    | num n => exact Or.inr ⟨m, n, rfl, rfl, Number.agrees_iff.mp h⟩
    | _ => simp [agrees, equalBy] at h
  | _ => cases b <;> simp_all [agrees, equalBy, number?]

end Json

theorem Number.toNat?_eq {n : Number} {k : Nat} (h : n.toNat? = some k) : n.value = k := by
  cases n with
  | binary x => cases h
  | whole n =>
    rw [toNat?] at h
    by_cases hpos : 0 ≤ n.val
    · rw [if_pos hpos, Option.some_inj] at h
      have hval : n.val = (k : Int) := by omega
      rw [value, hval, Int.cast_natCast]
    · rw [if_neg hpos] at h
      cases h

namespace Check

variable {value : Json} {as bs : List Json}

theorem agrees_head?_getD (h : EqualArgs as bs) :
    (as.head?.getD .null).agrees (bs.head?.getD .null) = true := by
  cases h with
  | nil => rfl
  | cons hab _ => exact hab

theorem distinctKeys_head?_getD (h : ∀ a ∈ as, a.DistinctKeys) :
    (as.head?.getD .null).DistinctKeys := by
  cases as with
  | nil => simp [Json.DistinctKeys]
  | cons a as => exact h a List.mem_cons_self

theorem candidates_eq_self (h : ∀ items, as ≠ [.arr items]) : candidates as = as := by
  rw [candidates]
  exact h

/-- Equal arguments have equal candidates, also where one list is the only argument. -/
theorem equal_candidates (h : EqualArgs as bs) : EqualArgs (candidates as) (candidates bs) := by
  by_cases hlist : ∃ items, as = [.arr items]
  · obtain ⟨items, rfl⟩ := hlist
    obtain ⟨b, rest, hb, hrest, rfl⟩ := List.forall₂_cons_left_iff.mp h
    rw [List.forall₂_nil_left_iff] at hrest
    subst hrest
    obtain ⟨others, rfl⟩ := Json.exists_eq_arr_of_agrees hb
    exact Json.agrees_arr.mp hb
  · -- then the other row is no single list either
    have hother : ∀ items, bs ≠ [.arr items] := by
      rintro items rfl
      obtain ⟨a, rest, ha, hrest, rfl⟩ := List.forall₂_cons_right_iff.mp h
      rw [List.forall₂_nil_right_iff] at hrest
      subst hrest
      obtain ⟨others, rfl⟩ := Json.exists_eq_arr_of_agrees_arr ha
      exact hlist ⟨others, rfl⟩
    rw [candidates_eq_self (not_exists.mp hlist), candidates_eq_self hother]
    exact h

theorem distinctKeys_candidates (h : ∀ a ∈ as, a.DistinctKeys) :
    ∀ a ∈ candidates as, a.DistinctKeys := by
  by_cases hlist : ∃ items, as = [.arr items]
  · obtain ⟨items, rfl⟩ := hlist
    exact Json.distinctKeys_arr.mp (h (.arr items) (List.mem_singleton_self _))
  · rw [candidates_eq_self (not_exists.mp hlist)]
    exact h

theorem any_agrees_congr (hvalue : value.DistinctKeys) (hkeys : ∀ a ∈ as, a.DistinctKeys)
    (h : EqualArgs as bs) : as.any value.agrees = bs.any value.agrees := by
  induction h with
  | nil => rfl
  | cons hab _ ih =>
    rw [List.forall_mem_cons] at hkeys
    rw [List.any_cons, List.any_cons, Json.agrees_congr_right hvalue hkeys.1 hab, ih hkeys.2]

theorem orderAgainstBound?_congr (h : EqualArgs as bs) (value : Json) :
    orderAgainstBound? value as = orderAgainstBound? value bs := by
  cases h with
  | nil => rfl
  | @cons a b _ _ hab _ =>
    have hbound : ∀ n : Number, a.number?.bind n.compare? = b.number?.bind n.compare? := by
      intro n
      rcases Json.number?_of_agrees hab with ⟨ha, hb⟩ | ⟨k, m, ha, hb, hvalue⟩
      · rw [ha, hb]
      · rw [ha, hb, Option.bind_some, Option.bind_some, Number.compare?_eq, Number.compare?_eq,
          hvalue]
    have hread : ∀ n : Number, (do n.compare? (← (← some a).number?)) =
        (do n.compare? (← (← some b).number?) : Option Ordering) := hbound
    simp only [orderAgainstBound?, List.head?_cons, hread]

theorem textAndPattern?_congr (h : EqualArgs as bs) (value : Json) :
    textAndPattern? value as = textAndPattern? value bs := by
  cases h with
  | nil => rfl
  | cons hab _ =>
    simp [textAndPattern?, Json.text?_eq_of_agrees hab]

/-! ### Bounds for a size -/

theorem sizeBound?_cons (a : Json) (as : List Json) :
    sizeBound? (a :: as) = a.number?.bind Number.toNat? := rfl

theorem sizeBound?_eq_of_isSome_eq (h : EqualArgs as bs)
    (hform : (sizeBound? as).isSome = (sizeBound? bs).isSome) : sizeBound? as = sizeBound? bs := by
  cases h with
  | nil => rfl
  | @cons a b _ _ hab _ =>
    rw [sizeBound?_cons, sizeBound?_cons] at hform ⊢
    rcases Json.number?_of_agrees hab with ⟨ha, hb⟩ | ⟨m, n, ha, hb, hvalue⟩
    · rw [ha, hb]
    rw [ha, hb, Option.bind_some, Option.bind_some] at hform ⊢
    cases hm : m.toNat? with
    | none =>
      rw [hm, Option.isSome_none, eq_comm, Option.isSome_eq_false_iff, Option.isNone_iff_eq_none]
        at hform
      rw [hform]
    | some k =>
      rw [hm, Option.isSome_some, eq_comm, Option.isSome_iff_exists] at hform
      obtain ⟨l, hl⟩ := hform
      -- both bounds are written as natural numbers, and they are the same rational
      rw [Number.toNat?_eq hm, Number.toNat?_eq hl, Nat.cast_inj] at hvalue
      rw [hl, hvalue]

/-- A text of a given size. -/
def textOfSize (size : Nat) : Json := .str (String.ofList (List.replicate size 'a'))

theorem size?_textOfSize (size : Nat) : (textOfSize size).size? = some size := by
  simp [textOfSize, Json.size?]

/-- A check of size tells equal arguments apart iff one row has a bound and the other has none,
    where a size that is equal to the bound passes. -/
theorem sizeBy_eq_iff {test : Nat → Nat → Bool} (htest : ∀ n, test n n = true)
    (h : EqualArgs as bs) :
    (∀ value : Json, value.DistinctKeys → sizeBy test value as = sizeBy test value bs) ↔
      (sizeBound? as).isSome = (sizeBound? bs).isSome := by
  constructor
  · intro hsame
    have hpass : ∀ size cs, sizeBound? cs = some size →
        sizeBy test (textOfSize size) cs = true := by
      intro size cs hbound
      simp only [sizeBy, size?_textOfSize, hbound, htest]
    have hfail : ∀ size cs, sizeBound? cs = none → sizeBy test (textOfSize size) cs = false := by
      intro size cs hbound
      simp only [sizeBy, size?_textOfSize, hbound]
    have hdistinct : ∀ size, (textOfSize size).DistinctKeys := fun size => by
      simp [textOfSize, Json.DistinctKeys]
    cases ha : sizeBound? as with
    | none =>
      cases hb : sizeBound? bs with
      | none => rfl
      | some size =>
        have hvalue := hsame _ (hdistinct size)
        rw [hfail size as ha, hpass size bs hb] at hvalue
        cases hvalue
    | some size =>
      cases hb : sizeBound? bs with
      | some other => rfl
      | none =>
        have hvalue := hsame _ (hdistinct size)
        rw [hpass size as ha, hfail size bs hb] at hvalue
        cases hvalue
  · intro hform value _
    rw [sizeBy, sizeBy, sizeBound?_eq_of_isSome_eq h hform]

/-! ### The built-in checks -/

/-- A check that does not tell equal arguments apart. -/
def RespectsArgs (check : Check) : Prop :=
  ∀ {value : Json} {as bs : List Json}, value.DistinctKeys → (∀ a ∈ as, a.DistinctKeys) →
    EqualArgs as bs → check.passes value as = check.passes value bs

/-- A check that does not look at its arguments does not tell them apart. -/
theorem respectsArgs_of_forall_eq {check : Check}
    (h : ∀ value as bs, check.passes value as = check.passes value bs) : check.RespectsArgs :=
  fun _ _ _ => h _ _ _

theorem respectsArgs_equals : equals.RespectsArgs := by
  intro value as bs hvalue hkeys h
  exact Json.agrees_congr_right hvalue (distinctKeys_head?_getD hkeys) (agrees_head?_getD h)

theorem respectsArgs_oneOf : oneOf.RespectsArgs := by
  intro value as bs hvalue hkeys h
  exact any_agrees_congr hvalue (distinctKeys_candidates hkeys) (equal_candidates h)

theorem respectsArgs_min : min.RespectsArgs := by
  intro value as bs _ _ h
  simp only [min, plain, orderAgainstBound?_congr h]

theorem respectsArgs_max : max.RespectsArgs := by
  intro value as bs _ _ h
  simp only [max, plain, orderAgainstBound?_congr h]

theorem respectsArgs_matchingWith {ε ρ : Type} (engine : Pattern.Engine ε ρ) :
    (matchingWith engine).RespectsArgs := by
  intro value as bs _ _ h
  simp only [matchingWith, plain, textAndPattern?_congr h]

/-- The names of the checks that take their argument for the bound of a size. -/
def sizeChecks : List String := ["minLength", "maxLength"]

variable {ε ρ : Type} {engine : Pattern.Engine ε ρ} {name : String} {check : Check}

theorem respectsArgs_of_not_mem_sizeChecks : ∀ c ∈ Registry.builtinChecks engine,
    c.1 ∉ sizeChecks → c.2.RespectsArgs := by
  apply Registry.forall_mem_builtinChecks
    (p := fun name check => name ∉ sizeChecks → check.RespectsArgs)
  case absent | empty | isString | isNumber | isInteger | isFinite | isBoolean | isArray |
      isObject =>
    exact fun _ => respectsArgs_of_forall_eq fun _ _ _ => rfl
  case equals => exact fun _ => respectsArgs_equals
  case oneOf => exact fun _ => respectsArgs_oneOf
  case min => exact fun _ => respectsArgs_min
  case max => exact fun _ => respectsArgs_max
  case minLength | maxLength => exact fun hname => absurd (by decide) hname
  case matching => exact fun _ => respectsArgs_matchingWith engine

theorem exists_sizeBy_of_mem_sizeChecks : ∀ c ∈ Registry.builtinChecks engine, c.1 ∈ sizeChecks →
    ∃ test : Nat → Nat → Bool, (∀ n, test n n = true) ∧ c.2.passes = sizeBy test := by
  apply Registry.forall_mem_builtinChecks (p := fun name check => name ∈ sizeChecks →
    ∃ test : Nat → Nat → Bool, (∀ n, test n n = true) ∧ check.passes = sizeBy test)
  case minLength => exact fun _ => ⟨fun size bound => bound ≤ size, by simp, rfl⟩
  case maxLength => exact fun _ => ⟨fun size bound => size ≤ bound, by simp, rfl⟩
  -- no other check takes its argument for the bound of a size
  all_goals exact fun hname => absurd hname (by decide)

/-- **Only the form of a bound for a size matters.**  A built-in check gives every value the same
    verdict under equal arguments, unless it is one of the two checks of size and only one of the
    rows begins with a natural number that is written without fraction; then it tells them
    apart.  The engine that searches for patterns may be any. -/
theorem passes_eq_iff_sizeBound? (hcheck : (name, check) ∈ Registry.builtinChecks engine)
    (hkeys : ∀ a ∈ as, a.DistinctKeys) (h : EqualArgs as bs) :
    (∀ value : Json, value.DistinctKeys → check.passes value as = check.passes value bs) ↔
      (name ∈ sizeChecks → (sizeBound? as).isSome = (sizeBound? bs).isSome) := by
  by_cases hname : name ∈ sizeChecks
  · obtain ⟨test, htest, hpasses⟩ := exists_sizeBy_of_mem_sizeChecks _ hcheck hname
    rw [hpasses, sizeBy_eq_iff htest h]
    exact ⟨fun hform _ => hform, fun hform => hform hname⟩
  · have hrespects : check.RespectsArgs := respectsArgs_of_not_mem_sizeChecks _ hcheck hname
    exact iff_of_true (fun value hvalue => hrespects hvalue hkeys h) fun hmem => absurd hmem hname

def wholeThree : Json := .ofWhole ⟨3, by decide, by decide⟩

/-- Three, written with a fraction. -/
def binaryThree : Json := .num (.binary ⟨false, 0x4008000000000000, by decide⟩)

theorem passes_eq_iff_sizeBound?_three :
    (("oneOf", oneOf) ∈ Registry.builtinChecks Pattern.engine ∧
      ("minLength", minLength) ∈ Registry.builtinChecks Pattern.engine) ∧
    (EqualArgs [.arr [wholeThree, .null]] [.arr [binaryThree, .null]] ∧
      EqualArgs [wholeThree] [binaryThree]) ∧
    (∀ value : Json, value.DistinctKeys → oneOf.passes value [.arr [wholeThree, .null]] =
      oneOf.passes value [.arr [binaryThree, .null]]) ∧
    ¬ ∀ value : Json, value.DistinctKeys →
      minLength.passes value [wholeThree] = minLength.passes value [binaryThree] := by
  have hone : ("oneOf", oneOf) ∈ Registry.builtinChecks Pattern.engine := by
    simp [Registry.builtinChecks]
  have hmin : ("minLength", minLength) ∈ Registry.builtinChecks Pattern.engine := by
    simp [Registry.builtinChecks]
  have hlist : EqualArgs [.arr [wholeThree, .null]] [.arr [binaryThree, .null]] :=
    .cons (by decide +kernel) .nil
  have hbound : EqualArgs [wholeThree] [binaryThree] := .cons (by decide +kernel) .nil
  refine ⟨⟨hone, hmin⟩, ⟨hlist, hbound⟩, ?_, ?_⟩
  · refine (passes_eq_iff_sizeBound? hone ?_ hlist).mpr fun hmem => absurd hmem (by decide)
    simp [wholeThree, Json.ofWhole, Json.DistinctKeys, Json.DistinctKeysList]
  · rw [passes_eq_iff_sizeBound? hmin _ hbound]
    · decide
    · simp [wholeThree, Json.ofWhole, Json.DistinctKeys]

/-- A text of three characters is long enough for `3` and not for `3.0`. -/
theorem minLength_tells_forms_apart :
    ("minLength", minLength) ∈ Registry.builtinChecks Pattern.engine ∧
    EqualArgs [wholeThree] [binaryThree] ∧
    minLength.passes (.str "abc") [wholeThree] = true ∧
    minLength.passes (.str "abc") [binaryThree] = false := by
  refine ⟨by simp [Registry.builtinChecks], .cons (by decide +kernel) .nil, ?_, ?_⟩
  · decide
  · decide

end Check

end Proviso
