/-
  Proviso/Proofs/Report/Vacuous.lean
  ==================================
  **Nothing that is written is false for want of alternatives.**

  An `any` group without children is the one tree that no value satisfies whatever the checks say.
  Reading a document never leaves one: alternatives are only grouped where there are some, and
  dissolving a group takes the place of a child by the children of that child, of which there is
  one at least (`noEmptyAny_flatten`).  So a tree without conditions holds of every value
  (`holds_of_noEmptyAny`), and what is asked in its place, that the value is present, makes a
  difference to `null` alone.
-/
import Proviso.Proofs.Draft.Nest
import Proviso.Proofs.Instruction.Flat
import Proviso.Proofs.Instruction.Meaning
import Proviso.Proofs.Registry.Registrations
import Proviso.Proofs.Report.Finding

namespace Proviso

namespace Instruction

/-! ### Trees without an empty `any` group -/

/-- No `any` group of a tree is empty. -/
def NoEmptyAny (t : Instruction) : Prop := t.Everywhere fun k cs => k = .any → cs ≠ []

variable {k : Connective} {cs : List Instruction}

theorem noEmptyAny_check (c : Condition) : (check c).NoEmptyAny := everywhere_check c

theorem noEmptyAny_group :
    (group k cs).NoEmptyAny ↔ (k = .any → cs ≠ []) ∧ ∀ t ∈ cs, t.NoEmptyAny :=
  everywhere_group

theorem noEmptyAny_all (h : ∀ t ∈ cs, t.NoEmptyAny) : (group .all cs).NoEmptyAny :=
  noEmptyAny_group.mpr ⟨nofun, h⟩

theorem noEmptyAny_any (hne : cs ≠ []) (h : ∀ t ∈ cs, t.NoEmptyAny) :
    (group .any cs).NoEmptyAny :=
  noEmptyAny_group.mpr ⟨fun _ => hne, h⟩

theorem noEmptyAny_children {t : Instruction} (h : t.NoEmptyAny) :
    ∀ c ∈ t.children, c.NoEmptyAny := by
  cases t with
  | check c => nofun
  | group k cs => exact (noEmptyAny_group.mp h).2

/-- Alternatives stay alternatives: each one that dissolves leaves one of its own. -/
theorem dissolve_any_ne_nil (hne : cs ≠ []) (h : ∀ t ∈ cs, t.NoEmptyAny) :
    dissolve .any cs ≠ [] := by
  have hrow : cs.length ≤ (dissolve .any cs).length := by
    apply length_le_length_dissolve
    intro t ht hk
    have htree := h t ht
    rw [eq_group_of_joinedBy hk] at htree
    exact (noEmptyAny_group.mp htree).1 rfl
  have hpos : 0 < cs.length := List.length_pos_iff.mpr hne
  exact List.length_pos_iff.mp (Nat.lt_of_lt_of_le hpos hrow)

/-- **A step of simplification empties no `any` group.** -/
theorem noEmptyAny_flatten (place : Place) {t : Instruction} (h : t.NoEmptyAny) :
    (t.flatten place).NoEmptyAny := by
  cases t with
  | check c => exact h
  | group k cs =>
    obtain ⟨hne, hchildren⟩ := noEmptyAny_group.mp h
    rcases flatten_group place k cs with ⟨-, t, rfl, hflat⟩ | ⟨-, hflat⟩
    · rw [hflat]
      exact hchildren t List.mem_cons_self
    · rw [hflat, noEmptyAny_group]
      constructor
      · rintro rfl
        exact dissolve_any_ne_nil (hne rfl) hchildren
      · refine forall_mem_dissolve_iff.mpr fun t ht => ⟨fun _ => ?_, fun _ => hchildren t ht⟩
        exact noEmptyAny_children (hchildren t ht)

/-! ### What such a tree says without conditions -/

/-- **Without conditions and without empty alternatives a tree holds of every value.** -/
theorem holds_of_noEmptyAny {σ : Assignment} {value : Json} {t : Instruction}
    (h : t.NoEmptyAny) (hnone : t.conditions = []) : t.holds σ value = true := by
  induction t with
  | check c => cases hnone
  | group k cs ih =>
    rw [noEmptyAny_group] at h
    rw [conditions_group, conditionsOf_eq_flatMap, List.flatMap_eq_nil_iff] at hnone
    have hall : ∀ t ∈ cs, t.holds σ value = true := by
      intro t ht
      exact ih t ht (h.2 t ht) (hnone t ht)
    cases k with
    | all => exact holds_group_eq_neutral_iff.mpr hall
    | any =>
      -- there is a child to be satisfied
      obtain ⟨t, ht⟩ := List.exists_mem_of_ne_nil cs (h.1 rfl)
      by_contra hfalse
      have hneutral : holds σ value (.group .any cs) = Connective.any.neutral :=
        Bool.eq_false_iff.mpr hfalse
      have hother := holds_group_eq_neutral_iff.mp hneutral t ht
      rw [hall t ht] at hother
      cases hother

end Instruction

/-! ### Reading -/

namespace Draft

open Instruction

theorem noEmptyAny_combine {all any : List Instruction} (hall : ∀ t ∈ all, t.NoEmptyAny)
    (hany : ∀ t ∈ any, t.NoEmptyAny) : (combine all any).NoEmptyAny := by
  match all, any with
  | all, [] =>
    rw [combine_nil]
    exact noEmptyAny_all hall
  | [], t :: rest => exact noEmptyAny_any (List.cons_ne_nil t rest) hany
  | a :: all, t :: rest =>
    have hgroup : (group .any (t :: rest)).NoEmptyAny :=
      noEmptyAny_any (List.cons_ne_nil t rest) hany
    apply noEmptyAny_all
    intro u hu
    rcases List.mem_append.mp hu with hu | hu
    · exact hall u hu
    · exact List.mem_singleton.mp hu ▸ hgroup

theorem noEmptyAny_implicitConditions (members : List (String × Json)) :
    ∀ t ∈ implicitConditions members, t.NoEmptyAny := by
  intro t ht
  obtain ⟨m, -, rfl⟩ := List.mem_map.mp ht
  exact noEmptyAny_check _

theorem noEmptyAny_of_spells {place : Place} {j : Json} {t : Instruction}
    (h : Spells (fun _ t => t.NoEmptyAny) place j t) : t.NoEmptyAny := by
  cases h with
  | name s => exact noEmptyAny_check _
  | absent => exact noEmptyAny_all (List.forall_mem_nil _)
  | null => exact noEmptyAny_check _
  | bool b => exact noEmptyAny_check _
  | num n => exact noEmptyAny_check _
  | list hitems =>
    apply noEmptyAny_flatten
    exact noEmptyAny_combine (List.forall_mem_nil _) (forall_mem_of_forall₂ hitems)
  | shorthand hs hc => exact noEmptyAny_check _
  | @object _ members _ _ alls _ hs hl hall hany =>
    apply noEmptyAny_flatten
    refine noEmptyAny_combine ?_ (forall_mem_of_forall₂ hany)
    intro t ht
    rcases List.mem_append.mp ht with ht | ht
    · exact forall_mem_of_forall₂ hall t ht
    · exact noEmptyAny_implicitConditions members t ht

/-- **No value spells an empty `any` group.** -/
theorem noEmptyAny_of_normalizeValue {room : Nat} {place : Place} {j : Json} {t : Instruction}
    (h : (normalizeValue room place j).result = .ok t) : t.NoEmptyAny := by
  refine normalizeValue_induction (P := fun _ _ _ t => t.NoEmptyAny) ?_ h
  intro room place j t hspells
  exact noEmptyAny_of_spells hspells

end Draft

/-! ### Requirements -/

namespace Requirement

theorem noEmptyAny_ofInstruction {t : Instruction} (h : t.NoEmptyAny) :
    (ofInstruction t).root.NoEmptyAny := by
  cases t with
  | check c => exact Instruction.noEmptyAny_all (List.forall_mem_singleton.mpr h)
  | group k cs => exact h

theorem countChecks_eq_zero_iff {r : Requirement} :
    r.countChecks = 0 ↔ r.root.conditions = [] := by
  rw [countChecks, Instruction.countChecks_eq, List.length_eq_zero_iff]

theorem evaluate_of_noEmptyAny {r : Requirement} (h : r.root.NoEmptyAny)
    (hnone : r.countChecks = 0) (registry : Registry) (value : Json) :
    (r.evaluate registry value).result = .ok true ∨
      (r.evaluate registry value).result = .error .tooDeep ∧ maxDepth < r.root.height := by
  rw [countChecks_eq_zero_iff] at hnone
  cases hresult : (r.evaluate registry value).result with
  | ok verdict =>
    -- a verdict is what the tree says, whatever the names stand for
    have hholds : r.holds registry.assignment value = verdict :=
      holds_of_evaluate registry.assignment_agreesWith hresult
    rw [← hholds]
    exact Or.inl (congrArg Except.ok (Instruction.holds_of_noEmptyAny h hnone))
  | error e =>
    rcases Instruction.evaluateWithin_eq_error hresult with ⟨hroom, rfl⟩ | ⟨c, hc, -⟩
    · exact Or.inr ⟨rfl, hroom⟩
    · rw [hnone] at hc
      cases hc

theorem evaluate_present {ε ρ : Type} (engine : Pattern.Engine ε ρ) (value : Json) :
    (present.evaluate (.builtinWith engine) value).result = .ok (!value.isNull) := by
  have hfind : (Registry.builtinWith engine).find "absent" = .ok .absent :=
    Registry.find_builtinWith (by simp [Registry.builtinChecks])
  have hcondition : ((⟨"absent", [], true⟩ : Condition).evaluate (.builtinWith engine)
      value).result = .ok (!value.isNull) := by
    rw [Condition.evaluate_of_find hfind]
    exact congrArg Except.ok (Bool.bne_true value.isNull)
  exact (Logged.result_untilOther_singleton _ _ _).trans hcondition

end Requirement

namespace Nest

open Draft

theorem exists_normalizeValue_of_normalize {n : Nest}
    (hwritten : ∀ d ∈ n.drafts, ∃ j, d.body = .written j) {r : Requirement}
    (h : n.toDraft.normalize.result = .ok r) :
    ∃ j t, (normalizeValue maxDepth .root j).result = .ok t ∧ .ofInstruction t = r := by
  obtain ⟨j, hj⟩ := exists_toJson?_eq_some hwritten
  obtain ⟨-, hread⟩ := readAlike_toDraft hj
  rcases normalize_eq_ok h with hsettled | ⟨t, ht, hr⟩
  · -- neither a document nor a merge is a requirement that is handed in
    cases n with
    | draft d =>
      obtain ⟨i, hi⟩ := hwritten d (List.mem_singleton_self d)
      cases hi.symm.trans hsettled
    | merge parts => cases hsettled
  · refine ⟨j, t, ?_, hr⟩
    rw [← hread, normalizeBody_strip]
    exact ht

theorem noEmptyAny_of_normalize {n : Nest}
    (hwritten : ∀ d ∈ n.drafts, ∃ j, d.body = .written j) {r : Requirement}
    (h : n.toDraft.normalize.result = .ok r) : r.root.NoEmptyAny := by
  obtain ⟨j, t, ht, rfl⟩ := exists_normalizeValue_of_normalize hwritten h
  exact Requirement.noEmptyAny_ofInstruction (noEmptyAny_of_normalizeValue ht)

/-- **What is made of documents is never false for want of alternatives.**  However documents are
    merged, the tree that is read has no empty `any` group.  If it has no conditions, it holds of
    every value there is room to evaluate it on, and to ask in its place that the value is present
    turns the verdict on `null` and no other. -/
theorem never_vacuously_false {n : Nest}
    (hwritten : ∀ d ∈ n.drafts, ∃ j, d.body = .written j) {r : Requirement}
    (h : n.toDraft.normalize.result = .ok r) :
    r.root.NoEmptyAny ∧
    (r.countChecks = 0 →
      (∀ registry value, (r.evaluate registry value).result = .ok true ∨
        (r.evaluate registry value).result = .error .tooDeep ∧ maxDepth < r.root.height) ∧
      n.toDraft.Asks .present ∧
      ∀ (ε ρ : Type) (engine : Pattern.Engine ε ρ) value verdict,
        (r.evaluate (.builtinWith engine) value).result = .ok verdict →
          ∃ other, (Requirement.present.evaluate (.builtinWith engine) value).result = .ok other ∧
            (other ≠ verdict ↔ value = .null)) := by
  have hnever : r.root.NoEmptyAny := noEmptyAny_of_normalize hwritten h
  refine ⟨hnever, ?_⟩
  intro hnone
  have hholds := Requirement.evaluate_of_noEmptyAny hnever hnone
  refine ⟨hholds, ?_, ?_⟩
  · exact ⟨r, h, by rw [if_neg (Nat.not_lt.mpr (Nat.le_of_eq hnone))]⟩
  · intro ε ρ engine value verdict hverdict
    have htrue : verdict = true := by
      rcases hholds (.builtinWith engine) value with hok | ⟨hdeep, -⟩
      · exact Except.ok.inj (hverdict.symm.trans hok)
      · cases hverdict.symm.trans hdeep
    refine ⟨_, Requirement.evaluate_present engine value, ?_⟩
    rw [htrue]
    cases value <;> simp [Json.isNull]

/-- Empty lists in all places, in documents that are merged. -/
def hollowNest : Nest := .merge [
  .draft (.ofJson (.obj [("any", .arr []), ("all", .arr [.arr [], .obj [("or", .arr [.arr []])]])])),
  .draft .absent,
  .merge [.draft (.ofJson (.arr [.arr [], .obj [("debug", .bool true)]])), .merge []]]

def hollowRequirement : Requirement :=
  ⟨.all, [.group .any [.group .all [], .group .all []]]⟩

theorem never_vacuously_false_hollowNest :
    (∀ d ∈ hollowNest.drafts, ∃ j, d.body = .written j) ∧
    hollowNest.toDraft.normalize.result = .ok hollowRequirement ∧
    hollowRequirement.root.NoEmptyAny ∧ hollowRequirement.countChecks = 0 ∧
    (hollowRequirement.evaluate .builtin .null).result = .ok true ∧
    ∃ other, (Requirement.present.evaluate .builtin .null).result = .ok other ∧ other ≠ true := by
  have hwritten : ∀ d ∈ hollowNest.drafts, ∃ j, d.body = .written j := by
    simp [hollowNest, drafts, draftsOf, Draft.ofJson, Draft.absent]
  have hread : hollowNest.toDraft.normalize.result = .ok hollowRequirement := rfl
  have hnone : hollowRequirement.countChecks = 0 := rfl
  have hverdict : (hollowRequirement.evaluate .builtin .null).result = .ok true := rfl
  obtain ⟨hnever, hchecks⟩ := never_vacuously_false hwritten hread
  obtain ⟨-, -, hnull⟩ := hchecks hnone
  obtain ⟨other, hother, hturned⟩ := hnull _ _ Pattern.engine .null true hverdict
  exact ⟨hwritten, hread, hnever, hnone, hverdict, other, hother, hturned.mpr rfl⟩

end Nest

end Proviso
