/-
  Proviso/Proofs/Draft/Conjunction.lean
  =====================================
  **A merge asks for all of its drafts.**

  The meaning of written instructions carries over to bodies of any kind.  It depends on the place
  only for `null`, which a merge leaves out.  So the drafts of a merge, which are read one level
  further down than alone, without their options, collapsed and spliced, keep their meaning, and
  the verdict on the merge is the conjunction of the verdicts on the drafts.
-/
import Proviso.Proofs.Draft.Meaning
import Proviso.Proofs.Draft.Strip

namespace Proviso

/-! ### Bodies -/

namespace Assignment

variable (σ : Assignment) (value : Json)

mutual

/-- What a body asks for in its place. -/
def bodyMeaning : Place → Body → Bool
  | place, .written j => σ.meaningAt value place j
  | _, .settled r => r.holds σ value
  | _, .conjunction bodies => bodiesMeaning bodies

def bodiesMeaning : List Body → Bool
  | [] => true
  | body :: rest => bodyMeaning .nested body && bodiesMeaning rest

end

/-- Only the absent instruction means one thing at the root and another below it. -/
theorem bodyMeaning_nested {body : Body} (h : body.isAbsent = false) :
    σ.bodyMeaning value .nested body = σ.bodyMeaning value .root body := by
  cases body with
  | written j =>
    rw [bodyMeaning, bodyMeaning, meaningAt_of_isNull_eq_false _ _ .root h, meaningAt_nested]
  | settled r => rw [bodyMeaning, bodyMeaning]
  | conjunction bodies => rw [bodyMeaning, bodyMeaning]

theorem bodyMeaning_root_of_isAbsent {body : Body} (h : body.isAbsent = true) :
    σ.bodyMeaning value .root body = true := by
  cases body with
  | written j =>
    rw [bodyMeaning, meaningAt, show j.isNull = true from h]
    rfl
  | settled r => cases h
  | conjunction bodies => cases h

end Assignment

namespace Draft

variable {σ : Assignment} {value : Json}

/-! ### Reading bodies keeps the meaning -/

theorem all_holds_eq {bodies : List Body} {ts : List Instruction}
    (h : List.Forall₂ (fun body t => t.holds σ value = σ.bodyMeaning value .nested body)
      bodies ts) :
    (ts.map (·.holds σ value)).all id = σ.bodiesMeaning value bodies := by
  induction h with
  | nil => rw [Assignment.bodiesMeaning, List.map_nil, List.all_nil]
  | cons ht _ ih => rw [Assignment.bodiesMeaning, List.map_cons, List.all_cons, ht, ih, id]

theorem holds_of_normalizeBody {room : Nat} {place : Place} {body : Body} {t : Instruction}
    (h : (normalizeBody room place body).result = .ok t) :
    t.holds σ value = σ.bodyMeaning value place body := by
  refine normalizeBody_induction
    (P := fun _ place body t => t.holds σ value = σ.bodyMeaning value place body) ?_ ?_ ?_ h
  · intro room place j t ht
    rw [Assignment.bodyMeaning, holds_of_normalizeValue ht]
  · intro room place r
    rw [Assignment.bodyMeaning, Instruction.holds_flatten, Requirement.holds]
  · intro room place bodies ts hts
    rw [Assignment.bodyMeaning, Instruction.holds_flatten, Instruction.holds_group,
      Connective.verdict, all_holds_eq hts]

theorem holds_of_normalize {d : Draft} {r : Requirement} (h : d.normalize.result = .ok r) :
    r.holds σ value = σ.bodyMeaning value .root d.body := by
  rcases normalize_eq_ok h with hbody | ⟨t, ht, rfl⟩
  · rw [hbody, Assignment.bodyMeaning]
  · rw [Requirement.holds_ofInstruction, holds_of_normalizeBody ht]

/-! ### Merging -/

/-- The bodies that a merge keeps ask for what its drafts ask for. -/
theorem all_holds_mergedBodies {room : Nat} {drafts : List Draft} {ts : List Instruction}
    (h : List.Forall₂ (fun body t => (normalizeBody room .nested body).result = .ok t)
      (mergedBodies drafts) ts) :
    (ts.map (·.holds σ value)).all id =
      drafts.all fun d => σ.bodyMeaning value .root d.body := by
  induction drafts generalizing ts with
  | nil =>
    cases h
    rfl
  | cons d rest ih =>
    cases habsent : d.body.isAbsent with
    | true =>
      rw [mergedBodies_cons_of_isAbsent habsent] at h
      rw [List.all_cons, Assignment.bodyMeaning_root_of_isAbsent σ value habsent, Bool.true_and]
      exact ih h
    | false =>
      rw [mergedBodies_cons habsent] at h
      obtain ⟨t, ts', ht, hts, rfl⟩ := List.forall₂_cons_left_iff.mp h
      -- the draft is read below the root and without its options
      rw [normalizeBody_strip] at ht
      rw [List.map_cons, List.all_cons, List.all_cons, ih hts, holds_of_normalizeBody ht,
        Assignment.bodyMeaning_nested σ value habsent, id]

theorem holds_merge {drafts : List Draft} {m : Requirement}
    (h : (merge drafts).normalize.result = .ok m) :
    m.holds σ value = drafts.all fun d => σ.bodyMeaning value .root d.body := by
  rcases normalize_eq_ok h with hbody | ⟨t, ht, rfl⟩
  · cases hbody
  · obtain ⟨ts, hts, hflat⟩ := Logged.result_bind_eq_ok_iff.mp ht
    cases hflat
    rw [Requirement.holds_ofInstruction, Instruction.holds_flatten, Instruction.holds_group,
      Connective.verdict, all_holds_mergedBodies (Logged.result_forEach_eq_ok_iff.mp hts)]

/-- The verdicts on drafts are what the drafts ask for. -/
theorem all_bodyMeaning_eq {registry : Registry} (hσ : σ.AgreesWith registry)
    {drafts : List Draft} {rs : List Requirement} {bs : List Bool}
    (hrs : List.Forall₂ (fun d r => d.normalize.result = .ok r) drafts rs)
    (hbs : List.Forall₂ (fun r b => (r.evaluate registry value).result = .ok b) rs bs) :
    (drafts.all fun d => σ.bodyMeaning value .root d.body) = bs.all id := by
  induction hrs generalizing bs with
  | nil =>
    cases hbs
    rfl
  | cons hr _ ih =>
    obtain ⟨b, bs', hb, hbs', rfl⟩ := List.forall₂_cons_left_iff.mp hbs
    rw [List.all_cons, List.all_cons, ih hbs', ← holds_of_normalize hr,
      Requirement.holds_of_evaluate hσ hb, id]

/-- **A merge is the conjunction of its drafts.**  Whatever the drafts are, if each of them and the
    merge are read, and all of these requirements have a verdict, then the verdict on the merge is
    that all of the others are positive. -/
theorem evaluate_merge_eq_all {drafts : List Draft} {rs : List Requirement} {m : Requirement}
    (hrs : List.Forall₂ (fun d r => d.normalize.result = .ok r) drafts rs)
    (hm : (merge drafts).normalize.result = .ok m) {registry : Registry} {bs : List Bool}
    {b : Bool} (hbs : List.Forall₂ (fun r b => (r.evaluate registry value).result = .ok b) rs bs)
    (hb : (m.evaluate registry value).result = .ok b) : b = bs.all id := by
  have hσ := registry.assignment_agreesWith
  have hmerge : m.holds registry.assignment value = b := Requirement.holds_of_evaluate hσ hb
  rw [← hmerge, holds_merge hm, all_bodyMeaning_eq hσ hrs hbs]

/-- Drafts of all kinds: a written one with options, the absent one, an empty choice that is built
    by hand, and a merge. -/
def sampleDrafts : List Draft :=
  [ofJson (.obj [("any", .arr [.str "isString", sample]), ("allow_absent", .bool true)]), absent,
    (ofRequirement ⟨.any, [.group .any [], .check ⟨"isArray", [], false⟩]⟩).throwOnFailure false,
    merge [absent, ofJson .null, ofName "!isString"]]

/-- What the sample drafts require. -/
def sampleRequirements : List Requirement :=
  [⟨.any, [.check ⟨"isString", [], false⟩, .group .all sampleRequirement.children]⟩, ⟨.all, []⟩,
    ⟨.any, [.group .any [], .check ⟨"isArray", [], false⟩]⟩,
    ⟨.all, [.check ⟨"isString", [], true⟩]⟩]

/-- What their merge requires. -/
def sampleMerge : Requirement :=
  ⟨.all, [.group .any [.check ⟨"isString", [], false⟩, .group .all sampleRequirement.children],
    .group .any [.check ⟨"isArray", [], false⟩], .check ⟨"isString", [], true⟩]⟩

theorem evaluate_merge_eq_all_sample :
    List.Forall₂ (fun d r => d.normalize.result = .ok r) sampleDrafts sampleRequirements ∧
      (merge sampleDrafts).normalize.result = .ok sampleMerge ∧
      List.Forall₂ (fun r b => (r.evaluate sampleRegistry (.arr [])).result = .ok b)
        sampleRequirements [true, true, true, true] ∧
      (sampleMerge.evaluate sampleRegistry (.arr [])).result = .ok true ∧
      true = [true, true, true, true].all id := by
  have hrs : List.Forall₂ (fun d r => d.normalize.result = .ok r) sampleDrafts
      sampleRequirements :=
    .cons rfl (.cons rfl (.cons rfl (.cons rfl .nil)))
  have hm : (merge sampleDrafts).normalize.result = .ok sampleMerge := rfl
  have hbs : List.Forall₂ (fun r b => (r.evaluate sampleRegistry (.arr [])).result = .ok b)
      sampleRequirements [true, true, true, true] := by
    refine .cons ?_ (.cons ?_ (.cons ?_ (.cons ?_ .nil))) <;>
      exact eq_ok_of_toOption_eq_some (by decide +kernel)
  have hb : (sampleMerge.evaluate sampleRegistry (.arr [])).result = .ok true :=
    eq_ok_of_toOption_eq_some (by decide +kernel)
  exact ⟨hrs, hm, hbs, hb, evaluate_merge_eq_all hrs hm hbs hb⟩

end Draft

end Proviso
