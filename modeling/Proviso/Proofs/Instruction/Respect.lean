/-
  Proviso/Proofs/Instruction/Respect.lean
  =======================================
  **Verdicts do not tell equal values apart.**

  A check respects equality if equal values pass it alike, whatever its arguments, and leave the
  same in the log.  Each built-in check looks at a value through something that equal values have
  in common: its kind, its size, its text, the rational it denotes, or the values it is equal to.
  The last needs that equality is transitive, and so that keys are distinct; of the arguments
  nothing is asked.

  A registry whose checks all respect equality evaluates every tree alike on equal values, with the
  same verdict or the same error, and after the same conditions (`evaluateWithin_eq_of_agrees`).
-/
import Proviso.Instruction.Verdict
import Proviso.Proofs.Instruction.Tree
import Proviso.Proofs.Json.Content
import Proviso.Proofs.Logged.Rows
import Proviso.Proofs.Registry.Builtin

namespace Proviso

/-! ### What equal values have in common -/

theorem Number.isInteger_iff {n : Number} : n.isInteger = true ↔ ∃ m : Int, n.value = m := by
  cases n with
  | whole n => exact iff_of_true rfl ⟨n.val, rfl⟩
  | binary x => exact Binary64.isWhole_iff

namespace Json

variable {x y : Json}

theorem kind_eq_of_agrees (h : x.agrees y = true) : x.kind = y.kind := by
  cases x with
  | num n =>
    cases y with
    | num m =>
      have hvalue : n.value = m.value := Number.agrees_iff.mp h
      have hinteger : n.isInteger = m.isInteger := by
        rw [Bool.eq_iff_iff, Number.isInteger_iff, Number.isInteger_iff, hvalue]
      rw [kind, kind, hinteger]
    | _ => simp [agrees, equalBy] at h
  | _ => cases y <;> simp_all [agrees, equalBy, kind]

theorem size?_eq_of_agrees (h : x.agrees y = true) : x.size? = y.size? := by
  cases x with
  | arr l =>
    cases y with
    | arr r => rw [size?, size?, (agrees_arr.mp h).length_eq]
    | _ => simp [agrees, equalBy] at h
  | obj l =>
    cases y with
    | obj r => rw [size?, size?, (agrees_obj.mp h).1]
    | _ => simp [agrees, equalBy] at h
  | _ => cases y <;> simp_all [agrees, equalBy, size?]

theorem text?_eq_of_agrees (h : x.agrees y = true) : x.text? = y.text? := by
  cases x <;> cases y <;> simp_all [agrees, equalBy, text?]

theorem isNull_eq_of_agrees (h : x.agrees y = true) : x.isNull = y.isNull := by
  cases x <;> cases y <;> simp_all [agrees, equalBy, isNull]

/-- A number has the same order to every other as an equal number. -/
theorem compare_number?_eq_of_agrees (h : x.agrees y = true) (b : Number) :
    (x.number?.bind fun n => n.compare? b) = y.number?.bind fun n => n.compare? b := by
  cases x with
  | num n =>
    cases y with
    | num m =>
      have hvalue : n.value = m.value := Number.agrees_iff.mp h
      simp only [number?, Option.bind_some, Number.compare?_eq, hvalue]
    | _ => simp [agrees, equalBy] at h
  | _ => cases y <;> simp_all [agrees, equalBy, number?]

end Json

/-! ### Checks -/

/-- A check that does not tell equal values apart. -/
structure Check.Respects (check : Check) : Prop where
  passes : ∀ {x y : Json}, x.DistinctKeys → x.agrees y = true → ∀ args,
    check.passes x args = check.passes y args
  remarks : ∀ {x y : Json}, x.DistinctKeys → x.agrees y = true → ∀ args,
    check.remarks x args = check.remarks y args

namespace Check

theorem respects_plain {passes : Json → List Json → Bool} {text : List Json → String}
    (h : ∀ {x y : Json}, x.DistinctKeys → x.agrees y = true → ∀ args,
      passes x args = passes y args) : (plain passes text).Respects :=
  ⟨h, fun _ _ _ => rfl⟩

theorem respects_ofKinds (kinds : List Kind) (text : String) : (ofKinds kinds text).Respects := by
  apply respects_plain
  intro x y _ h _
  rw [Json.kind_eq_of_agrees h]

theorem respects_absent : absent.Respects :=
  ⟨fun _ h _ => Json.isNull_eq_of_agrees h, fun _ _ _ => rfl⟩

theorem respects_empty : empty.Respects := by
  apply respects_plain
  intro x y _ h _
  rw [isEmptyValue, isEmptyValue, Json.isNull_eq_of_agrees h, Json.size?_eq_of_agrees h]

theorem respects_equals : equals.Respects := by
  apply respects_plain
  intro x y hx h args
  exact Json.agrees_congr_left hx h _

theorem respects_oneOf : oneOf.Respects := by
  apply respects_plain
  intro x y hx h args
  rw [funext (Json.agrees_congr_left hx h)]

theorem orderAgainstBound?_eq_of_agrees {x y : Json} (h : x.agrees y = true) (args : List Json) :
    orderAgainstBound? x args = orderAgainstBound? y args := by
  -- the bound is the same for both values, so it may be read first
  have hbound : ∀ z : Json, orderAgainstBound? z args =
      (args.head?.bind Json.number?).bind fun b => z.number?.bind fun n => n.compare? b := by
    intro z
    rw [Option.bind_comm]
    simp only [orderAgainstBound?, Option.bind_eq_bind, Option.bind_assoc]
  rw [hbound, hbound]
  simp only [Json.compare_number?_eq_of_agrees h]

theorem respects_min : min.Respects := by
  apply respects_plain
  intro x y _ h args
  rw [orderAgainstBound?_eq_of_agrees h]

theorem respects_max : max.Respects := by
  apply respects_plain
  intro x y _ h args
  rw [orderAgainstBound?_eq_of_agrees h]

theorem respects_sizeBy (test : Nat → Nat → Bool) (text : List Json → String) :
    (plain (sizeBy test) text).Respects := by
  apply respects_plain
  intro x y _ h args
  rw [sizeBy, sizeBy, Json.size?_eq_of_agrees h]

theorem respects_matchingWith {ε ρ : Type} (engine : Pattern.Engine ε ρ) :
    (matchingWith engine).Respects := by
  have htext : ∀ {x y : Json}, x.agrees y = true → ∀ args,
      textAndPattern? x args = textAndPattern? y args := by
    intro x y h args
    rw [textAndPattern?, textAndPattern?, Json.text?_eq_of_agrees h]
  constructor
  · intro x y _ h args
    simp only [matchingWith, plain, htext h]
  · intro x y _ h args
    simp only [matchingWith, plain, htext h]

end Check

/-! ### Trees -/

/-- All checks of a registry respect equality. -/
def Registry.Respects (registry : Registry) : Prop :=
  ∀ name check, registry.get? name = some check → check.Respects

theorem Registry.respects_builtinWith {ε ρ : Type} (engine : Pattern.Engine ε ρ) :
    (builtinWith engine).Respects := by
  apply forall_get?_builtinWith
  apply forall_mem_builtinChecks (p := fun _ => Check.Respects)
  case absent => exact Check.respects_absent
  case empty => exact Check.respects_empty
  case isString | isNumber | isInteger | isFinite | isBoolean | isArray | isObject =>
    exact Check.respects_ofKinds _ _
  case equals => exact Check.respects_equals
  case oneOf => exact Check.respects_oneOf
  case min => exact Check.respects_min
  case max => exact Check.respects_max
  case minLength | maxLength => exact Check.respects_sizeBy _ _
  case matching => exact Check.respects_matchingWith engine

variable {registry : Registry} {x y : Json}

theorem Condition.evaluate_congr_of_agrees (hregistry : registry.Respects) (hx : x.DistinctKeys)
    (h : x.agrees y = true) (c : Condition) : c.evaluate registry x = c.evaluate registry y := by
  rw [evaluate, evaluate, Registry.find]
  cases hget : registry.get? c.name with
  | none => rfl
  | some check =>
    have hcheck := hregistry c.name check hget
    have hevaluate : (check.evaluate x c.args : Logged Error Bool) = check.evaluate y c.args := by
      rw [Check.evaluate, Check.evaluate, hcheck.passes hx h, hcheck.remarks hx h]
    show (do
      let passed := (← check.evaluate x c.args) != c.negate
      Logged.emit [.evaluated c passed]
      return passed : Logged Error Bool) = _
    rw [hevaluate]
    rfl

namespace Instruction

theorem evaluateWithin_eq_of_agrees (hregistry : registry.Respects) (hx : x.DistinctKeys)
    (h : x.agrees y = true) (room : Nat) (t : Instruction) :
    t.evaluateWithin registry x room = t.evaluateWithin registry y room := by
  induction t generalizing room with
  | check c =>
    cases room with
    | zero => rfl
    | succ room => exact c.evaluate_congr_of_agrees hregistry hx h
  | group k cs ih =>
    cases room with
    | zero => rfl
    | succ room =>
      rw [evaluateWithin, evaluateWithin]
      exact Logged.untilOther_congr fun t ht => ih t ht room

/-- **Verdicts do not tell equal values apart**: with the built-in checks every tree, whatever its
    arguments and also with names that are not known, has the same verdict or the same error on
    two values that are equal by magnitude.  The engine that searches for patterns may be any. -/
theorem evaluate_eq_of_agrees {ε ρ : Type} (engine : Pattern.Engine ε ρ) (t : Instruction)
    {x y : Json} (hx : x.DistinctKeys) (h : x.agrees y = true) :
    (t.evaluate (.builtinWith engine) x).result =
      (t.evaluate (.builtinWith engine) y).result := by
  have hregistry := Registry.respects_builtinWith engine
  rw [evaluate, evaluate, evaluateWithin_eq_of_agrees hregistry hx h]

/-- A number of at least five, or else an object equal to `Json.turned`; that the last name is not
    known matters to values that are neither. -/
def picky : Instruction :=
  .group .any [.check ⟨"min", [Json.wholeFive], false⟩,
    .check ⟨"oneOf", [.null, Json.turned], false⟩, .check ⟨"noSuchCheck", [], false⟩]

theorem evaluate_eq_of_agrees_picky :
    Json.written.DistinctKeys ∧ Json.written.agrees Json.rewritten = true ∧
    (picky.evaluate .builtin Json.written).result = .ok true ∧
    (picky.evaluate .builtin Json.rewritten).result = .ok true := by
  have h : Json.written.agrees Json.rewritten = true := by decide +kernel
  have hverdict : (picky.evaluate .builtin Json.written).result = .ok true := by
    with_unfolding_all rfl
  have hsame := evaluate_eq_of_agrees Pattern.engine picky Json.distinctKeys_written h
  exact ⟨Json.distinctKeys_written, h, hverdict, hsame ▸ hverdict⟩

end Instruction

end Proviso
