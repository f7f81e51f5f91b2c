/-
  Proviso/Proofs/Instruction/Extension.lean
  =========================================
  **Two registries, one tree.**

  Evaluating a tree and describing it ask the registry for names of the tree, and for nothing
  else.  Where a second registry answers alike, both runs go the same way.  They can part only
  where the first is told that it does not know a name, and that ends it: any result but this
  error is the result under the second registry too (`evaluateWithin_congr_unless`,
  `describeWithin_congr_unless`).
-/
import Proviso.Proofs.Instruction.Height
import Proviso.Registry.Builtin

namespace Proviso

namespace Registry

/-- Every name of `registry` stands for the same check in `larger`. -/
def Extends (larger registry : Registry) : Prop :=
  ∀ name check, registry.get? name = some check → larger.get? name = some check

/-- A check under a new name takes none away. -/
theorem extends_register {registry : Registry} {name : String} (h : registry.has name = false)
    (check : Check) : (registry.register name check).Extends registry := by
  intro wanted found hfound
  rw [get?_register]
  by_cases hkey : key wanted = key name
  · have hsame : registry.get? name = some found := by
      rw [get?, ← hkey]
      exact hfound
    rw [has, hsame] at h
    cases h
  · rw [if_neg hkey]
    exact hfound

theorem find_congr {registry other : Registry} {name : String}
    (h : registry.get? name = other.get? name) : registry.find name = other.find name := by
  rw [find, find, h]

theorem Extends.find_eq {larger registry : Registry} (h : larger.Extends registry) {name : String}
    (hname : registry.find name ≠ .error (.unknownCheck name)) :
    registry.find name = larger.find name := by
  apply find_congr
  cases hget : registry.get? name with
  | none =>
    rw [find, hget] at hname
    exact absurd rfl hname
  | some check => exact (h name check hget).symm

end Registry

variable {registry other : Registry} {value : Json}

/-! ### Conditions -/

namespace Condition

variable {c : Condition}

theorem evaluate_congr_of_find (h : registry.find c.name = other.find c.name) :
    c.evaluate registry value = c.evaluate other value := by
  rw [evaluate, evaluate, h]

theorem describe_congr_of_find (h : registry.find c.name = other.find c.name) :
    c.describe registry = c.describe other := by
  rw [describe, describe, h]

theorem evaluate_eq_unknownCheck (h : registry.find c.name = .error (.unknownCheck c.name)) :
    (c.evaluate registry value).result = .error (.unknownCheck c.name) := by
  rw [evaluate, h]
  rfl

theorem describe_eq_unknownCheck (h : registry.find c.name = .error (.unknownCheck c.name)) :
    c.describe registry = .error (.unknownCheck c.name) := by
  rw [describe, h]
  rfl

end Condition

/-! ### Trees -/

namespace Instruction

/-- A tree is evaluated alike if its conditions are, where both is told only short of the errors
    that are `bad`. -/
theorem evaluateWithin_congr_unless (bad : Error → Prop) {t : Instruction}
    (h : ∀ c ∈ t.conditions, (∀ e, bad e → (c.evaluate registry value).result ≠ .error e) →
      c.evaluate registry value = c.evaluate other value)
    {room : Nat} (ht : ∀ e, bad e → (t.evaluateWithin registry value room).result ≠ .error e) :
    t.evaluateWithin registry value room = t.evaluateWithin other value room := by
  induction t generalizing room with
  | check c =>
    cases room with
    | zero => rfl
    | succ room => exact h c (List.mem_singleton_self c) ht
  | group k cs ih =>
    cases room with
    | zero => rfl
    | succ room =>
      rw [evaluateWithin, evaluateWithin]
      apply Logged.untilOther_congr_unless bad
      · intro t hmem hgood
        apply ih t hmem _ hgood
        intro c hc
        exact h c (mem_conditions_group.mpr ⟨t, hmem, hc⟩)
      · exact ht

theorem describeWithin_congr_unless (bad : Error → Prop) {t : Instruction}
    (h : ∀ c ∈ t.conditions, (∀ e, bad e → c.describe registry ≠ .error e) →
      c.describe registry = c.describe other)
    {room : Nat} {place : Place}
    (ht : ∀ e, bad e → t.describeWithin registry room place ≠ .error e) :
    t.describeWithin registry room place = t.describeWithin other room place := by
  induction t generalizing room place with
  | check c =>
    cases room with
    | zero => rfl
    | succ room => exact h c (List.mem_singleton_self c) ht
  | group k cs ih =>
    cases room with
    | zero => rfl
    | succ room =>
      have hparts : cs.mapM (describeWithin registry room .nested) =
          cs.mapM (describeWithin other room .nested) := by
        apply mapM_congr_unless bad
        · intro t hmem hgood
          apply ih t hmem _ hgood
          intro c hc
          exact h c (mem_conditions_group.mpr ⟨t, hmem, hc⟩)
        · intro e hbad he
          apply ht e hbad
          rw [describeWithin, bind_eq_error_iff]
          exact Or.inl he
      rw [describeWithin, describeWithin, hparts]

end Instruction

/-! ### Requirements -/

namespace Requirement

variable {r : Requirement}

theorem evaluate_congr_of_find
    (h : ∀ c ∈ r.root.conditions, registry.find c.name = other.find c.name) (value : Json) :
    r.evaluate registry value = r.evaluate other value := by
  apply Instruction.evaluateWithin_congr_unless fun _ => False
  · intro c hc _
    exact c.evaluate_congr_of_find (h c hc)
  · intro e hbad
    exact hbad.elim

theorem describe_congr_of_find
    (h : ∀ c ∈ r.root.conditions, registry.find c.name = other.find c.name) :
    r.describe registry = r.describe other := by
  apply Instruction.describeWithin_congr_unless fun _ => False
  · intro c hc _
    exact c.describe_congr_of_find (h c hc)
  · intro e hbad
    exact hbad.elim

theorem result_evaluate_of_extends (h : other.Extends registry) {x : Except Error Bool}
    (hresult : (r.evaluate registry value).result = x)
    (hx : ∀ name, x ≠ .error (.unknownCheck name)) : (r.evaluate other value).result = x := by
  have hsame : r.evaluate registry value = r.evaluate other value := by
    apply Instruction.evaluateWithin_congr_unless fun e => ∃ name, e = .unknownCheck name
    · -- a condition without this error was found, so it is found alike
      intro c _ hknown
      apply c.evaluate_congr_of_find
      apply h.find_eq
      intro hfind
      exact hknown _ ⟨c.name, rfl⟩ (c.evaluate_eq_unknownCheck hfind)
    · rintro e ⟨name, rfl⟩ hunknown
      exact hx name (hresult.symm.trans hunknown)
  rw [← hsame, hresult]

theorem describe_of_extends (h : other.Extends registry) {x : Except Error String}
    (hresult : r.describe registry = x) (hx : ∀ name, x ≠ .error (.unknownCheck name)) :
    r.describe other = x := by
  have hsame : r.describe registry = r.describe other := by
    apply Instruction.describeWithin_congr_unless fun e => ∃ name, e = .unknownCheck name
    · intro c _ hknown
      apply c.describe_congr_of_find
      apply h.find_eq
      intro hfind
      exact hknown _ ⟨c.name, rfl⟩ (c.describe_eq_unknownCheck hfind)
    · rintro e ⟨name, rfl⟩ hunknown
      exact hx name (hresult.symm.trans hunknown)
  rw [← hsame, hresult]

/-- **A registry is asked for the names of a tree only, and no result is overturned by more
    checks.**  Two registries with the same checks under the names of a tree give the same verdict
    and the same wording, or fail alike.  A larger registry keeps each verdict and each wording,
    and does not get deeper into a tree that goes too deep. -/
theorem results_of_extends :
    (∀ (registry other : Registry) (r : Requirement) (value : Json),
      (∀ c ∈ r.root.conditions, registry.get? c.name = other.get? c.name) →
        r.evaluate registry value = r.evaluate other value ∧
          r.describe registry = r.describe other) ∧
    ∀ registry larger : Registry, larger.Extends registry → ∀ (r : Requirement) (value : Json),
      (∀ verdict, (r.evaluate registry value).result = .ok verdict →
        (r.evaluate larger value).result = .ok verdict) ∧
      (∀ text, r.describe registry = .ok text → r.describe larger = .ok text) ∧
      ((r.evaluate registry value).result = .error .tooDeep →
        (r.evaluate larger value).result = .error .tooDeep) := by
  constructor
  · intro registry other r value h
    have hfind : ∀ c ∈ r.root.conditions, registry.find c.name = other.find c.name := by
      intro c hc
      exact Registry.find_congr (h c hc)
    exact ⟨evaluate_congr_of_find hfind value, describe_congr_of_find hfind⟩
  · intro registry larger hextends r value
    refine ⟨?_, ?_, ?_⟩
    · intro verdict hverdict
      exact result_evaluate_of_extends hextends hverdict nofun
    · intro text htext
      exact describe_of_extends hextends htext nofun
    · intro hdeep
      exact result_evaluate_of_extends hextends hdeep nofun

end Requirement

/-- The built-in checks and one more. -/
def Registry.withShout : Registry :=
  builtin.register "isShout" (.plain (fun value _ => value.text == value.text.map Char.toUpper)
    fun _ => "a shout")

/-- A text, or else a shout. -/
def Requirement.textOrShout : Requirement :=
  ⟨.any, [.check ⟨"isString", [], false⟩, .check ⟨"isShout", [], false⟩]⟩

/-- Groups in groups, on one level more than the number. -/
def Instruction.shaft : Nat → Instruction
  | 0 => .group .any []
  | n + 1 => .group .all [shaft n]

theorem Instruction.evaluateWithin_shaft {n room : Nat} (h : room ≤ n) :
    ((shaft n).evaluateWithin registry value room).result = .error .tooDeep := by
  induction n generalizing room with
  | zero =>
    rw [Nat.le_zero.mp h]
    rfl
  | succ n ih =>
    cases room with
    | zero => rfl
    | succ room =>
      have hbelow := ih (Nat.le_of_succ_le_succ h)
      exact Logged.result_bind_eq_error_iff.mpr (Or.inl hbelow)

def Requirement.shaft (n : Nat) : Requirement := ⟨.all, [Instruction.shaft n]⟩

theorem Requirement.evaluate_shaft {n : Nat} (h : maxDepth ≤ n + 1) :
    ((shaft n).evaluate registry value).result = .error .tooDeep :=
  Instruction.evaluateWithin_shaft h

theorem Requirement.results_of_extends_withShout :
    Registry.withShout.Extends .builtin ∧
    (textOrShout.evaluate .builtin (.str "x")).result = .ok true ∧
    (textOrShout.evaluate .withShout (.str "x")).result = .ok true ∧
    present.describe .builtin = .ok "a present value" ∧
    present.describe .withShout = .ok "a present value" ∧
    ((shaft 127).evaluate .builtin .null).result = .error .tooDeep ∧
    ((shaft 127).evaluate .withShout .null).result = .error .tooDeep ∧
    present.evaluate .builtin .null = present.evaluate .withShout .null := by
  have hextends : Registry.withShout.Extends .builtin :=
    Registry.extends_register (by with_unfolding_all rfl) _
  have hkept := results_of_extends.2 _ _ hextends
  have hverdict : (textOrShout.evaluate .builtin (.str "x")).result = .ok true := by
    with_unfolding_all rfl
  have htext : present.describe .builtin = .ok "a present value" := by
    with_unfolding_all rfl
  have hdeep : ((shaft 127).evaluate .builtin .null).result = .error .tooDeep :=
    evaluate_shaft (Nat.le_refl _)
  have habsent : Registry.builtin.get? "absent" = some .absent := by with_unfolding_all rfl
  have hnames : ∀ c ∈ present.root.conditions,
      Registry.builtin.get? c.name = Registry.withShout.get? c.name := by
    intro c hc
    cases List.mem_singleton.mp hc
    exact habsent.trans (hextends _ _ habsent).symm
  have hsame := (results_of_extends.1 _ _ _ .null hnames).1
  refine ⟨hextends, hverdict, ?_, htext, ?_, hdeep, ?_, hsame⟩
  · exact (hkept textOrShout (.str "x")).1 true hverdict
  · exact (hkept present .null).2.1 _ htext
  · exact (hkept _ .null).2.2 hdeep

end Proviso
