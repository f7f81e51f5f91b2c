/-
  Proviso/Proofs/Draft/Canonical.lean
  ===================================
  **Which written instructions have a flat tree.**

  Reading simplifies the group it makes of a list or an object, and still leaves two things to
  simplify.  The alternatives of an object that asks for something else, too, become a group of
  their own that is not simplified (`combine`): it keeps a single alternative, and alternatives
  that are joined by `any` again.  And an `all` group may be left with one child, since its children
  are counted before some of them dissolve; it stays where it is an alternative itself.

  No `all` group ever has an `all` child, and the tree is flat iff the alternatives of every
  instruction in the written one are free of both (`flat_iff_of_normalize`).
-/
import Proviso.Proofs.Draft.Alternatives
import Proviso.Proofs.Instruction.Flat

namespace Proviso.Draft

open Instruction

/-! ### One step of reading -/

/-- Alternatives leave nothing to simplify: none of them is a group of one child, unless it passes
    for the whole instruction, and beside other demands they are two or more, none of them joined
    by `any`. -/
def Spread (place : Place) (others : Nat) (any : List Instruction) : Prop :=
  ((place = .nested → others + any.length ≠ 1) → ∀ t ∈ any, t.children.length ≠ 1) ∧
    (others ≠ 0 → any ≠ [] → any.length ≠ 1 ∧ Apart .any any)

section

variable {place : Place} {all any : List Instruction} (hall : ∀ t ∈ all, t.Tidy .nested)
  (hany : ∀ t ∈ any, t.Tidy .nested)
include hall hany

theorem tidy_flatten_combine : ((combine all any).flatten place).Tidy place := by
  match all, any with
  | all, [] =>
    rw [combine_nil]
    exact tidy_flatten hall nofun
  | [], t :: rest => exact tidy_flatten hany fun _ => List.cons_ne_nil t rest
  | u :: all, t :: rest =>
    -- the group of the alternatives comes last and stays
    have hcombine : combine (u :: all) (t :: rest) =
        .group .all (u :: all ++ [.group .any (t :: rest)]) := rfl
    rw [hcombine, flatten_of_length_ne_one place .all (by simp)]
    exact ⟨(forall_mem_dissolve_concat_iff rfl).mpr ⟨apart_dissolve hall, rfl⟩, nofun⟩

/-- **What one step leaves to simplify**: nothing but what its alternatives leave. -/
theorem flatBelow_flatten_combine_iff : ((combine all any).flatten place).FlatBelow ↔
    ((∀ t ∈ all, t.FlatBelow) ∧ ∀ t ∈ any, t.FlatBelow) ∧ Spread place all.length any := by
  match all, any with
  | all, [] =>
    rw [combine_nil, flatBelow_flatten_all_iff hall]
    simp [Spread]
  | [], t :: rest =>
    have hcombine : combine [] (t :: rest) = .group .any (t :: rest) := rfl
    rw [hcombine, flatBelow_flatten_any_iff hany]
    simp [Spread]
  | u :: all, t :: rest =>
    have hcombine : combine (u :: all) (t :: rest) =
        .group .all (u :: all ++ [.group .any (t :: rest)]) := rfl
    have hflat : (∀ v ∈ t :: rest, v.Flat) ↔
        (∀ v ∈ t :: rest, v.FlatBelow) ∧ ∀ v ∈ t :: rest, v.children.length ≠ 1 := by
      rw [← forall₂_and]
      exact forall₂_congr fun v hv => (hany v hv).flat_iff
    have hcount : (u :: all).length + (t :: rest).length ≠ 1 := by
      rw [List.length_cons, List.length_cons]
      omega
    have hspread : Spread place (u :: all).length (t :: rest) ↔
        (∀ v ∈ t :: rest, v.children.length ≠ 1) ∧
          (t :: rest).length ≠ 1 ∧ Apart .any (t :: rest) := by
      rw [Spread, imp_iff_right fun _ => hcount, imp_iff_right (by simp), imp_iff_right (by simp)]
    rw [hcombine, flatten_of_length_ne_one place .all (by simp), hspread]
    refine (forall_mem_dissolve_concat_iff rfl).trans ?_
    rw [flat_dissolve_all_iff hall, flat_group, hflat]
    constructor
    · rintro ⟨hu, hapart, hbelow, hlength⟩
      exact ⟨⟨hu, hbelow⟩, hlength, hapart⟩
    · rintro ⟨⟨hu, hbelow⟩, hlength, hapart⟩
      exact ⟨hu, hapart, hbelow, hlength⟩

end

theorem allApart_combine {all any : List Instruction} (place : Place)
    (hall : ∀ t ∈ all, t.AllApart) (hany : ∀ t ∈ any, t.AllApart) :
    ((combine all any).flatten place).AllApart := by
  match all, any with
  | all, [] =>
    rw [combine_nil]
    exact allApart_flatten place hall
  | [], t :: rest => exact allApart_flatten place hany
  | u :: all, t :: rest =>
    refine allApart_flatten place ?_
    intro v hv
    rcases List.mem_append.mp hv with hv | hv
    · exact hall v hv
    · rw [List.mem_singleton.mp hv]
      exact everywhere_group.mpr ⟨nofun, hany⟩

/-! ### Written instructions -/

/-- Alternatives leave nothing to simplify, beside this many other demands: none of them reads as
    a group of one child, unless it is all that is asked for below the root, and beside other
    demands they are two or more, none of which reads as an `any` group. -/
def SpreadBeside (place : Place) (others : Nat) (any : List Json) : Prop :=
  ((place = .nested → others + any.length ≠ 1) →
    ∀ i ∈ any, ∀ t, Reads i t → t.children.length ≠ 1) ∧
  (others ≠ 0 → any ≠ [] →
    any.length ≠ 1 ∧ ∀ i ∈ any, ∀ t, Reads i t → t.joinedBy .any = false)

/-- The alternatives of an instruction leave nothing to simplify. -/
def WellSpread (place : Place) : Json → Prop
  | .arr items => SpreadBeside place 0 items
  | .obj members => isShorthand members = false → ∀ all any, listed members = .ok (all, any) →
      SpreadBeside place (all.length + (implicitConditions members).length) any
  | _ => True

theorem forall_mem_iff_of_reads {q : Instruction → Prop} {items : List Json}
    {ts : List Instruction} (h : List.Forall₂ Reads items ts) :
    (∀ i ∈ items, ∀ t, Reads i t → q t) ↔ ∀ t ∈ ts, q t := by
  refine forall_mem_iff_of_forall₂ (h.imp fun i t hi => ⟨fun hall => hall t hi, ?_⟩)
  intro ht u hu
  rw [hu.unique hi]
  exact ht

theorem spreadBeside_iff {place : Place} {others : Nat} {any : List Json}
    {anys : List Instruction} (h : List.Forall₂ Reads any anys) :
    SpreadBeside place others any ↔ Spread place others anys := by
  have hnil : any ≠ [] ↔ anys ≠ [] := not_congr (eq_nil_iff_of_forall₂ h)
  rw [SpreadBeside, Spread, forall_mem_iff_of_reads h, forall_mem_iff_of_reads h, h.length_eq, hnil]
  rfl

/-- **Reading never leaves an `all` group with an `all` child.** -/
theorem allApart_of_normalizeValue {room : Nat} {place : Place} {j : Json} {t : Instruction}
    (h : (normalizeValue room place j).result = .ok t) : t.AllApart := by
  refine normalizeValue_induction (P := fun _ _ _ t => t.AllApart) ?_ h
  intro room place j t hspells
  cases hspells with
  | name s => exact everywhere_check _
  | absent => exact everywhere_group.mpr ⟨fun _ => by simp [Apart], by simp⟩
  | null => exact everywhere_check _
  | bool b => exact everywhere_check _
  | num n => exact everywhere_check _
  | list hitems => exact allApart_combine place (by simp) (forall_mem_of_forall₂ hitems)
  | shorthand hs hc => exact everywhere_check _
  | object hs hl hall hany =>
    refine allApart_combine place ?_ (forall_mem_of_forall₂ hany)
    rw [List.forall_mem_append]
    refine ⟨forall_mem_of_forall₂ hall, ?_⟩
    intro t ht
    obtain ⟨m, -, rfl⟩ := List.mem_map.mp ht
    exact everywhere_check _

theorem wellSpread_iff {place : Place} {j : Json} :
    WellSpread place j ↔ AlternativesSatisfy SpreadBeside place j := by
  cases j <;> exact Iff.rfl

/-- **Whether a tree is flat below is decided by alternatives**, where all trees that are read are
    tidy. -/
theorem flatBelow_decidedByAlternatives :
    DecidedByAlternatives (fun place t => t.Tidy place) FlatBelow SpreadBeside where
  check _ c := ⟨trivial, flatBelow_check c⟩
  absent := ⟨⟨nofun, nofun⟩, fun _ hc => absurd hc List.not_mem_nil⟩
  combine place alls any anys halls hanys hreads := by
    rw [spreadBeside_iff hreads]
    exact ⟨tidy_flatten_combine halls hanys, flatBelow_flatten_combine_iff halls hanys⟩

/-- The tree is tidy, and flat below iff the instruction is well spread everywhere. -/
def FlatIffSpread (place : Place) (j : Json) (t : Instruction) : Prop :=
  t.Tidy place ∧ ∀ level, t.FlatBelow ↔
    WellSpread place j ∧ ∀ p ∈ (positions level j).tail, WellSpread .nested p.value

theorem flatIffSpread_of_normalizeValue {room : Nat} {place : Place} {j : Json} {t : Instruction}
    (h : (normalizeValue room place j).result = .ok t) : FlatIffSpread place j t := by
  obtain ⟨htidy, hflat⟩ := flatBelow_decidedByAlternatives.toldAtPositions h
  refine ⟨htidy, fun level => ?_⟩
  simp only [wellSpread_iff, hflat level]

/-! ### Drafts of documents -/

/-- **When the tree that is read is flat.**  No `all` group has an `all` child, and the tree is flat
    iff the alternatives of the instruction and of those below it leave nothing to simplify. -/
theorem flat_iff_of_normalize {j : Json} {overrides : Settings} {r : Requirement}
    (h : (normalize { body := .written j, overrides }).result = .ok r) :
    r.root.AllApart ∧ (r.Flat ↔
      WellSpread .root j ∧ ∀ p ∈ (positions 1 j).tail, WellSpread .nested p.value) := by
  rcases normalize_eq_ok h with h | ⟨t, ht, rfl⟩
  · cases h
  · have hread : (normalizeValue maxDepth .root j).result = .ok t := ht
    obtain ⟨htidy, hflat⟩ := flatIffSpread_of_normalizeValue hread
    constructor
    · exact Requirement.allApart_ofInstruction (allApart_of_normalizeValue hread)
    · rw [Requirement.flat_ofInstruction_iff htidy]
      exact hflat 1

/-- Alternatives of several kinds beside other demands. -/
def spreadSample : Json := .obj [("isString", .bool true),
  ("any", .arr [.str "empty",
    .obj [("minLength", .ofWhole { val := 8 }), ("isString", .bool true)]]),
  ("and", .arr [.arr [.str "isArray", .str "isObject"]])]

def spreadRequirement : Requirement := ⟨.all,
  [.group .any [.check ⟨"isArray", [], false⟩, .check ⟨"isObject", [], false⟩],
    .check ⟨"isString", [], false⟩,
    .group .any [.check ⟨"empty", [], false⟩,
      .group .all [.check ⟨"minLength", [.ofWhole { val := 8 }], false⟩,
        .check ⟨"isString", [], false⟩]]]⟩

theorem flat_iff_of_normalize_spreadSample :
    (normalize (ofJson spreadSample)).result = .ok spreadRequirement ∧
      spreadRequirement.root.AllApart ∧ spreadRequirement.Flat ∧
      WellSpread .root spreadSample ∧
      ∀ p ∈ (positions 1 spreadSample).tail, WellSpread .nested p.value := by
  have h : (normalize (ofJson spreadSample)).result = .ok spreadRequirement := rfl
  have hflat : spreadRequirement.Flat := by
    simp [spreadRequirement, Requirement.Flat, Apart, flat_group, flat_check, joinedBy,
      connective?]
  obtain ⟨happart, hiff⟩ := flat_iff_of_normalize h
  exact ⟨h, happart, hflat, hiff.mp hflat⟩

/-- A check beside a list of two alternatives, which is the only alternative itself. -/
def wrappedAlternatives : Json := .obj [("isString", .bool true),
  ("any", .arr [.arr [.str "empty", .str "isInteger"]])]

/-- **The group of alternatives is not simplified**: it has a single child, and this child is joined
    like the group itself. -/
theorem not_flat_wrappedAlternatives :
    ∃ r, (normalize (ofJson wrappedAlternatives)).result = .ok r ∧ ¬ r.Flat := by
  refine ⟨⟨.all, [.check ⟨"isString", [], false⟩, .group .any [.group .any
    [.check ⟨"empty", [], false⟩, .check ⟨"isInteger", [], false⟩]]]⟩, rfl, ?_⟩
  intro hflat
  have hgroup := hflat.2 _ (List.mem_cons_of_mem _ List.mem_cons_self)
  exact (flat_group.mp hgroup).1.1 rfl

/-- Beside an instruction that asks for nothing a single child is left. -/
example : (normalize (ofJson (.arr [.str "isInteger", .obj [("isString", .bool true),
    ("all", .arr [.obj []])]]))).result =
      .ok ⟨.any, [.check ⟨"isInteger", [], false⟩,
        .group .all [.check ⟨"isString", [], false⟩]]⟩ := rfl

end Proviso.Draft
