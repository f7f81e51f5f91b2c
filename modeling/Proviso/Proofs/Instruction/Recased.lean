/-
  Proviso/Proofs/Instruction/Recased.lean
  =======================================
  **The case of names in a tree does not matter.**

  Two trees that differ in the case of names only are evaluated and described alike under any
  registry: where one is told that a name is not known, so is the other, and the two errors show the
  two spellings of that name (`Recased.evaluateWithin`, `Recased.describeWithin`).  For a registry
  this rests on what it finds after any row of registrations.
-/
import Proviso.Proofs.Instruction.Tree
import Proviso.Proofs.Logged.Rows
import Proviso.Proofs.Registry.Registrations
import Proviso.Instruction.Wording

namespace Proviso

open Registry (SameName)

/-! ### Results -/

/-- Two results that are the same, but for the spelling of a name that is not known. -/
inductive SameButName {α : Type} : Except Error α → Except Error α → Prop where
  | refl (x : Except Error α) : SameButName x x
  | unknownCheck {m n : String} (h : SameName m n) :
    SameButName (.error (.unknownCheck m)) (.error (.unknownCheck n))

namespace SameButName

variable {α β : Type} {x y : Except Error α}

theorem bind (h : SameButName x y) {f g : α → Except Error β}
    (hfg : ∀ a, SameButName (f a) (g a)) : SameButName (x >>= f) (y >>= g) := by
  cases h with
  | refl =>
    cases x with
    | ok a => exact hfg a
    | error e => exact .refl _
  | unknownCheck hname => exact .unknownCheck hname

/-- Rows whose members have such results have such a result, as far as a verdict does not end
    them. -/
theorem untilOther {γ δ : Type} {neutral : Bool} {f : γ → Logged Error Bool}
    {g : δ → Logged Error Bool} {as : List γ} {bs : List δ}
    (h : List.Forall₂ (fun a b => SameButName (f a).result (g b).result) as bs) :
    SameButName (Logged.untilOther neutral f as).result
      (Logged.untilOther neutral g bs).result := by
  induction h with
  | nil => exact .refl _
  | cons hab _ ih =>
    rw [Logged.untilOther, Logged.untilOther, Logged.result_bind, Logged.result_bind]
    apply hab.bind
    intro verdict
    by_cases hv : verdict = neutral
    · rw [if_pos hv, if_pos hv]
      exact ih
    · rw [if_neg hv, if_neg hv]
      exact .refl _

theorem mapM {γ δ : Type} {f : γ → Except Error β} {g : δ → Except Error β} {as : List γ}
    {bs : List δ} (h : List.Forall₂ (fun a b => SameButName (f a) (g b)) as bs) :
    SameButName (as.mapM f) (bs.mapM g) := by
  induction h with
  | nil => exact .refl _
  | cons hab _ ih =>
    rw [List.mapM_cons, List.mapM_cons]
    apply hab.bind
    intro b
    apply ih.bind
    intro bs
    exact .refl _

end SameButName

/-! ### Conditions -/

variable {registry : Registry} {value : Json}

theorem Registry.find_sameButName {m n : String} (h : SameName m n) :
    SameButName (registry.find m) (registry.find n) := by
  have hget : registry.get? m = registry.get? n := by rw [get?, get?, key_eq_key_iff.mpr h]
  rw [find, find, hget]
  cases registry.get? n with
  | none => exact .unknownCheck h
  | some check => exact .refl _

namespace Condition

/-- The same check on the same arguments, under another spelling of its name. -/
def Recased (c d : Condition) : Prop :=
  SameName c.name d.name ∧ c.args = d.args ∧ c.negate = d.negate

variable {c d : Condition}

theorem Recased.evaluate (h : c.Recased d) :
    SameButName (c.evaluate registry value).result (d.evaluate registry value).result := by
  obtain ⟨hname, hargs, hnegate⟩ := h
  rw [result_evaluate, result_evaluate, hargs, hnegate]
  exact (Registry.find_sameButName hname).bind fun check => .refl _

theorem Recased.describe (h : c.Recased d) :
    SameButName (c.describe registry) (d.describe registry) := by
  obtain ⟨hname, hargs, hnegate⟩ := h
  rw [Condition.describe, Condition.describe, hargs, hnegate]
  exact (Registry.find_sameButName hname).bind fun check => .refl _

end Condition

/-! ### Trees -/

namespace Instruction

/-- The same tree with other spellings of the names in it. -/
inductive Recased : Instruction → Instruction → Prop where
  | check {c d : Condition} (h : c.Recased d) : Recased (.check c) (.check d)
  | group (k : Connective) {cs ds : List Instruction} (h : List.Forall₂ Recased cs ds) :
    Recased (.group k cs) (.group k ds)

/-- What holds of each tree of a row and any other spelling of it holds along two such rows. -/
theorem Recased.forall₂ {R : Instruction → Instruction → Prop} {cs ds : List Instruction}
    (h : List.Forall₂ Recased cs ds) (hR : ∀ t ∈ cs, ∀ u, Recased t u → R t u) :
    List.Forall₂ R cs ds :=
  ((List.forall₂_and_left _ _).mpr ⟨hR, h⟩).imp fun _ u htu => htu.1 u htu.2

theorem Recased.evaluateWithin {t u : Instruction} (h : t.Recased u) (room : Nat) :
    SameButName (t.evaluateWithin registry value room).result
      (u.evaluateWithin registry value room).result := by
  induction t generalizing u room with
  | check c =>
    cases h with
    | check hc =>
      cases room with
      | zero => exact .refl _
      | succ room => exact hc.evaluate
  | group k cs ih =>
    cases h with
    | group k hcs =>
      cases room with
      | zero => exact .refl _
      | succ room =>
        apply SameButName.untilOther
        exact Recased.forall₂ hcs fun t ht u htu => ih t ht htu room

theorem Recased.describeWithin {t u : Instruction} (h : t.Recased u) (room : Nat)
    (place : Place) : SameButName (t.describeWithin registry room place)
      (u.describeWithin registry room place) := by
  induction t generalizing u room place with
  | check c =>
    cases h with
    | check hc =>
      cases room with
      | zero => exact .refl _
      | succ room => exact hc.describe
  | group k cs ih =>
    cases h with
    | group k hcs =>
      cases room with
      | zero => exact .refl _
      | succ room =>
        have hparts : SameButName (cs.mapM (Instruction.describeWithin registry room .nested)) _ :=
          SameButName.mapM (Recased.forall₂ hcs fun t ht u htu => ih t ht htu room .nested)
        exact hparts.bind fun parts => .refl _

end Instruction

/-! ### Registries and trees -/

/-- **A name stands for what was registered last under one of its spellings.**  Whatever is
    registered one after the other with an empty registry or one that has the built-in checks, the
    registry finds, knows and lists accordingly.  So under any registry two trees that differ in the
    ASCII case of names only have the same verdict and the same description, or the same error but
    for the spelling of an unknown name. -/
theorem Registry.answers_whatever_case :
    (∀ (start : Registry) (own calls : List (String × Check)), Starts start own →
      Answers (start.registerAll calls) own calls) ∧
    ∀ (registry : Registry) (r s : Requirement) (value : Json), r.root.Recased s.root →
      SameButName (r.evaluate registry value).result (s.evaluate registry value).result ∧
        SameButName (r.describe registry) (s.describe registry) := by
  constructor
  · intro start own calls hstart
    exact hstart.answers calls
  · intro registry r s value hrecased
    exact ⟨hrecased.evaluateWithin maxDepth, hrecased.describeWithin maxDepth .root⟩

/-- Checks under new names, in place of a built-in one, and in place of one another. -/
def Registry.renamed : List (String × Check) :=
  [("Élan", .absent), ("ISSTRING", .empty), ("MIN", .max), ("isString", .isInteger)]

/-- Two alternatives, the second in a group of its own. -/
def Requirement.spelled (first second : String) : Requirement :=
  ⟨.any, [.check ⟨first, [], false⟩, .group .all [.check ⟨second, [], true⟩]]⟩

theorem Requirement.recased_spelled {a b a' b' : String} (ha : SameName a a')
    (hb : SameName b b') : (spelled a b).root.Recased (spelled a' b').root :=
  .group .any (.cons (.check ⟨ha, rfl, rfl⟩)
    (.cons (.group .all (.cons (.check ⟨hb, rfl, rfl⟩) .nil)) .nil))

/-- With the checks above, `isString` is looked up as `isInteger`, and `élan` is not known. -/
theorem Registry.answers_whatever_case_renamed :
    Starts .builtin (builtinChecks Pattern.engine) ∧
    (builtin.registerAll renamed).find "IsString" = .ok .isInteger ∧
    (builtin.registerAll renamed).find "maxlength" = .ok .maxLength ∧
    (builtin.registerAll renamed).find "élan" = .error (.unknownCheck "élan") ∧
    key "ISSTRING" ∈ (builtin.registerAll renamed).names ∧
    (Requirement.spelled "ISString" "élan").root.Recased
      (Requirement.spelled "isstring" "éLAN").root ∧
    SameButName
      ((Requirement.spelled "ISString" "élan").evaluate (builtin.registerAll renamed) .null).result
      ((Requirement.spelled "isstring" "éLAN").evaluate (builtin.registerAll renamed)
        .null).result := by
  have hstart : Starts .builtin (builtinChecks Pattern.engine) := .builtin Pattern.engine
  have hanswers := answers_whatever_case.1 _ _ renamed hstart
  have hrecased : (Requirement.spelled "ISString" "élan").root.Recased
      (Requirement.spelled "isstring" "éLAN").root :=
    Requirement.recased_spelled (by decide +kernel) (by decide +kernel)
  refine ⟨hstart, ?_, ?_, ?_, ?_, hrecased, ?_⟩
  · refine (hanswers.found _ _).mpr (Or.inl ⟨renamed.take 3, "isString", [], rfl, ?_, nofun⟩)
    decide +kernel
  · have hmem : ("maxLength", Check.maxLength) ∈ builtinChecks Pattern.engine :=
      List.mem_of_getElem? (i := 14) rfl
    exact (hanswers.found _ _).mpr
      (Or.inr ⟨by decide +kernel, "maxLength", hmem, by decide +kernel⟩)
  · exact (hanswers.unknown _ _).mpr ⟨by decide +kernel, rfl⟩
  · have hmem : ("ISSTRING", Check.empty) ∈ renamed := List.mem_of_getElem? (i := 1) rfl
    exact (hanswers.listed _).mpr ⟨_, List.mem_append_right _ hmem, rfl⟩
  · exact (answers_whatever_case.2 _ _ _ .null hrecased).1

end Proviso
