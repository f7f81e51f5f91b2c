/-
  Proviso/Proofs/Report/Literal.lean
  ==================================
  **Comparing with a value that is written down.**

  A draft of one condition passes a value or fails on it as the check of the condition says
  (`decides_single`): nothing in it can be unknown or too deep, and without options there is
  nothing but the value itself to hand out.

  An object with the only key `equals` is such a draft.  Its condition compares with what stands
  under the key, of any kind and at any depth, with one exception.  A boolean on its own says
  whether the check is asked for and is no argument, and without an argument the check compares
  with `null`.
-/
import Proviso.Proofs.Instruction.Negation
import Proviso.Proofs.Registry.Registrations
import Proviso.Proofs.Report.Known

namespace Proviso

variable {registry : Registry} {value : Json} {c : Condition} {check : Check}
variable {ε ρ : Type} (engine : Pattern.Engine ε ρ)

theorem Registry.find_builtinWith_equals : (builtinWith engine).find "equals" = .ok .equals :=
  find_builtinWith (by simp [builtinChecks])

/-- Without an argument the check compares with `null`. -/
theorem Check.passes_equals_nil (x : Json) : equals.passes x [] = x.isNull := by
  cases x with
  | null => rfl
  | _ => rfl

/-! ### Requirements of one condition -/

namespace Requirement

theorem result_evaluate_single_of_find (h : registry.find c.name = .ok check) (value : Json) :
    ((single c).evaluate registry value).result =
      .ok (check.passes value c.args != c.negate) := by
  rw [result_evaluate_single, Condition.evaluate_of_find h]

/-- A condition on its own is worded as it is. -/
theorem describe_single (c : Condition) :
    (single c).describe registry = c.describe registry := by
  show ([Instruction.check c].mapM _ >>= _) = _
  rw [List.mapM_cons, List.mapM_nil, Instruction.describeWithin]
  cases c.describe registry with
  | error e => rfl
  | ok text => rfl

end Requirement

namespace Draft

variable {d : Draft}

/-- The value is handed out. -/
def Passes (registry : Registry) (d : Draft) (value : Json) : Prop :=
  (d.validate registry value).result = .ok (.value value)

/-- The value is refused for what it is. -/
def Fails (registry : Registry) (d : Draft) (value : Json) : Prop :=
  ∃ rep, (d.validate registry value).result = .error (.failed rep)

theorem not_fails_of_passes (h : d.Passes registry value) : ¬ d.Fails registry value := by
  rintro ⟨rep, hrep⟩
  rw [Passes, hrep] at h
  cases h

/-- The value passes or fails, which of the two is the verdict. -/
structure Decides (registry : Registry) (d : Draft) (value : Json) (verdict : Bool) : Prop where
  passes_iff : d.Passes registry value ↔ verdict = true
  fails_iff : d.Fails registry value ↔ verdict = false

theorem decides_true (h : d.Passes registry value) : d.Decides registry value true :=
  ⟨iff_of_true h rfl, iff_of_false (not_fails_of_passes h) Bool.true_eq_false.mp⟩

theorem decides_false (h : d.Fails registry value) : d.Decides registry value false :=
  ⟨iff_of_false (fun hpasses => not_fails_of_passes hpasses h) Bool.false_eq_true.mp,
    iff_of_true h rfl⟩

theorem not_bypasses_of_options (h : d.options = {}) : ¬ d.Bypasses value := by
  rintro ⟨hallow, -⟩
  rw [h] at hallow
  cases hallow

theorem passes_of_finds_met {t : Requirement} (hoptions : d.options = {})
    (h : d.Finds registry value (.met t)) : d.Passes registry value := by
  rw [Passes, validate_of_finds_met h, hoptions]
  rfl

theorem fails_of_finds_unmet {t : Requirement} {m : Mismatch} (hoptions : d.options = {})
    (h : d.Finds registry value (.unmet t m)) : d.Fails registry value :=
  ⟨_, validate_eq_failed_iff.mpr ⟨by rw [hoptions], t, m, h, rfl⟩⟩

/-- Without options the verdict on a draft of one condition is that of its check. -/
theorem decides_single (hoptions : d.options = {}) (hread : d.normalize.result = .ok (.single c))
    (hfind : registry.find c.name = .ok check) (value : Json) :
    d.Decides registry value (check.passes value c.args != c.negate) := by
  have hpass : ¬ d.Bypasses value := not_bypasses_of_options hoptions
  have hasks : d.Asks (.single c) := ⟨_, hread, rfl⟩
  have hverdict := Requirement.result_evaluate_single_of_find hfind value
  cases hresult : check.passes value c.args != c.negate with
  | true =>
    rw [hresult] at hverdict
    exact decides_true (passes_of_finds_met hoptions (.met hpass hasks hverdict))
  | false =>
    have hwording : (Requirement.single c).describe registry =
        .ok (check.wording c.negate c.args) := by
      rw [Requirement.describe_single, Condition.describe, hfind]
      rfl
    rw [hresult] at hverdict
    exact decides_false (fails_of_finds_unmet hoptions (.unmet hpass hasks hverdict hwording))

/-! ### The draft that asks for a value -/

/-- The instruction `equals` with this value for its argument. -/
def equalTo (v : Json) : Draft := ofJson (.obj [("equals", v)])

theorem options_equalTo (v : Json) : (equalTo v).options = {} := rfl

theorem free_equals : Negation.Free "equals".toList := by rintro (_ | _ | _) <;> decide

theorem result_normalize_equalTo (v : Json) : (equalTo v).normalize.result =
    .ok (.single ⟨"equals", (readArguments [v] false).1, (readArguments [v] false).2⟩) :=
  congrArg (Except.ok ∘ Requirement.single) (Condition.ofWritten_of_free free_equals [v] false)

/-- What is not a boolean is the argument of the check. -/
theorem result_normalize_equalTo_of_forall_ne {v : Json} (hv : ∀ b, v ≠ .bool b) :
    (equalTo v).normalize.result = .ok (.single ⟨"equals", [v], false⟩) := by
  have hargs : ∀ b, [v] ≠ [.bool b] := fun b hb => hv b (List.cons.inj hb).1
  rw [result_normalize_equalTo, readArguments_of_forall_ne hargs]

theorem result_normalize_equalTo_bool (b : Bool) :
    (equalTo (.bool b)).normalize.result = .ok (.single ⟨"equals", [], !b⟩) :=
  result_normalize_equalTo (.bool b)

theorem decides_equalTo {v : Json} (hv : ∀ b, v ≠ .bool b) (x : Json) :
    (equalTo v).Decides (.builtinWith engine) x (x.agrees v) := by
  have hdecides := decides_single (options_equalTo v) (result_normalize_equalTo_of_forall_ne hv)
    (Registry.find_builtinWith_equals engine) x
  rw [Bool.bne_false] at hdecides
  exact hdecides

theorem decides_equalTo_bool (b : Bool) (x : Json) :
    (equalTo (.bool b)).Decides (.builtinWith engine) x (x.isNull == b) := by
  have hdecides := decides_single (options_equalTo (.bool b)) (result_normalize_equalTo_bool b)
    (Registry.find_builtinWith_equals engine) x
  rw [Check.passes_equals_nil, Bool.bne_not, bne, Bool.not_not] at hdecides
  exact hdecides

/-- **A value that is written down is what is asked for, unless it is a boolean.**  With `equals`
    as its only key an instruction passes the values that are equal to the one under the key by
    magnitude, and refuses all others.  A boolean there asserts or denies the comparison without
    an argument, which is one with `null`.  The engine that searches for patterns may be any. -/
theorem equalTo_passes_iff_agrees (x : Json) :
    (∀ v : Json, (∀ b, v ≠ .bool b) →
      ((equalTo v).Passes (.builtinWith engine) x ↔ x.agrees v = true) ∧
      ((equalTo v).Fails (.builtinWith engine) x ↔ x.agrees v = false)) ∧
    ∀ b, ((equalTo (.bool b)).Passes (.builtinWith engine) x ↔ x.isNull = b) ∧
      ((equalTo (.bool b)).Fails (.builtinWith engine) x ↔ x.isNull ≠ b) := by
  refine ⟨?_, ?_⟩
  · intro v hv
    have hdecides := decides_equalTo engine hv x
    exact ⟨hdecides.passes_iff, hdecides.fails_iff⟩
  · intro b
    have hdecides := decides_equalTo_bool engine b x
    exact ⟨hdecides.passes_iff.trans beq_iff_eq, hdecides.fails_iff.trans beq_eq_false_iff_ne⟩

/-- A boolean in a list is a value like others. -/
theorem equalTo_passes_iff_agrees_listed :
    (∀ b, Json.arr [.bool true] ≠ .bool b) ∧
    (equalTo (.arr [.bool true])).Passes .builtin (.arr [.bool true]) ∧
    (equalTo (.arr [.bool true])).Fails .builtin (.bool true) := by
  have hv : ∀ b, Json.arr [.bool true] ≠ .bool b := nofun
  refine ⟨hv, ?_, ?_⟩
  · exact (((equalTo_passes_iff_agrees Pattern.engine _).1 _ hv).1).mpr (by decide)
  · exact (((equalTo_passes_iff_agrees Pattern.engine _).1 _ hv).2).mpr (by decide)

/-- A boolean is equal to itself, and an instruction that seems to ask for it refuses it. -/
theorem equalTo_true_refuses_true :
    Json.agrees (.bool true) (.bool true) = true ∧
    ¬ (equalTo (.bool true)).Passes .builtin (.bool true) ∧
    (equalTo (.bool true)).Fails .builtin (.bool true) := by
  have hfails : (equalTo (.bool true)).Fails .builtin (.bool true) :=
    (decides_equalTo_bool Pattern.engine true _).fails_iff.mpr (by decide)
  exact ⟨by decide, fun hpasses => not_fails_of_passes hpasses hfails, hfails⟩

end Draft

end Proviso
