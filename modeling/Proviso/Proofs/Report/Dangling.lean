/-
  Proviso/Proofs/Report/Dangling.lean
  ===================================
  **Which written instructions leave a connective of a failure text without an operand.**

  A description leaves an operand out where a group below the root is empty (`worded_iff`).
  Demands that ask for nothing dissolve, and reading leaves no empty `any` group.  But an
  alternative that asks for nothing stays, as an empty `all` group, unless it is all that is asked
  for below the root.  So every part of a description says something iff nowhere in the written
  instruction such an alternative is offered (`worded_iff_of_normalize`).
-/
import Proviso.Proofs.Draft.Alternatives
import Proviso.Proofs.Instruction.Worded
import Proviso.Proofs.Report.Vacuous

namespace Proviso

/-! ### Empty groups in one step of reading -/

namespace Instruction

variable {k : Connective} {cs : List Instruction}

theorem filledBelow_group : (group k cs).FilledBelow ↔ ∀ t ∈ cs, t.Filled := Iff.rfl

theorem dissolve_eq_nil_iff : dissolve k cs = [] ↔ ∀ t ∈ cs, t = .group k [] := by
  rw [List.eq_nil_iff_forall_not_mem]
  refine forall_mem_dissolve_iff.trans (forall₂_congr fun t _ => ?_)
  cases hk : t.joinedBy k with
  | true =>
    rw [eq_group_of_joinedBy hk]
    simp [children, List.eq_nil_iff_forall_not_mem]
  | false =>
    refine iff_of_false (fun h => h.2 rfl) ?_
    rintro rfl
    simp [joinedBy_group] at hk

/-- Without empty alternatives, no group of a tree is empty iff none is below the root and the tree
    is no empty `all` group. -/
theorem filled_iff {t : Instruction} (h : t.NoEmptyAny) :
    t.Filled ↔ t.FilledBelow ∧ t ≠ .group .all [] := by
  cases t with
  | check c => exact iff_of_true (everywhere_check c) ⟨nofun, nofun⟩
  | group k cs =>
    have hempty : cs ≠ [] ↔ group k cs ≠ .group .all [] := by
      cases k with
      | all => simp
      | any => exact iff_of_true ((noEmptyAny_group.mp h).1 rfl) nofun
    rw [Filled, everywhere_group, and_comm, hempty]
    rfl

theorem filled_iff_of_ne {t : Instruction} (h : t.NoEmptyAny) (hne : t ≠ .group .all []) :
    t.Filled ↔ t.FilledBelow :=
  (filled_iff h).trans (and_iff_left hne)

section

variable (h : ∀ t ∈ cs, t.NoEmptyAny)
include h

/-- Demands that ask for nothing leave nothing. -/
theorem filled_dissolve_all_iff :
    (∀ t ∈ dissolve .all cs, t.Filled) ↔ ∀ t ∈ cs, t.FilledBelow := by
  refine forall_mem_dissolve_iff.trans (forall₂_congr fun t ht => ?_)
  cases hk : t.joinedBy .all with
  | true => simp [FilledBelow]
  | false =>
    have hne : t ≠ .group .all [] := by
      rintro rfl
      cases hk
    simp [filled_iff_of_ne (h t ht) hne]

theorem filled_dissolve_any_iff :
    (∀ t ∈ dissolve .any cs, t.Filled) ↔ ∀ t ∈ cs, t.Filled := by
  refine forall_mem_dissolve_iff.trans (forall₂_congr fun t ht => ?_)
  cases hk : t.joinedBy .any with
  | true =>
    -- it gives way to its children, of which there is one at least
    have hne : t ≠ .group .all [] := by
      rintro rfl
      cases hk
    simp [filled_iff_of_ne (h t ht) hne, FilledBelow]
  | false => simp

theorem filledBelow_flatten_all_iff (place : Place) :
    ((group .all cs).flatten place).FilledBelow ↔ ∀ t ∈ cs, t.FilledBelow := by
  rcases flatten_group place .all cs with ⟨-, t, rfl, hflat⟩ | ⟨-, hflat⟩
  · rw [hflat, List.forall_mem_singleton]
  · rw [hflat]
    exact filled_dissolve_all_iff h

theorem filledBelow_flatten_any_iff (place : Place) :
    ((group .any cs).flatten place).FilledBelow ↔ (∀ t ∈ cs, t.FilledBelow) ∧
      ((place = .nested → cs.length ≠ 1) → ∀ t ∈ cs, t ≠ .group .all []) := by
  rcases flatten_group place .any cs with ⟨rfl, t, rfl, hflat⟩ | ⟨hlength, hflat⟩
  · rw [hflat, List.forall_mem_singleton]
    exact (and_iff_left fun hne => absurd rfl (hne rfl)).symm
  · rw [hflat, imp_iff_right hlength, ← forall₂_and]
    refine (filled_dissolve_any_iff h).trans ?_
    exact forall₂_congr fun t ht => filled_iff (h t ht)

end

end Instruction

theorem Requirement.filledBelow_ofInstruction_iff {t : Instruction} :
    (ofInstruction t).root.FilledBelow ↔ t.FilledBelow := by
  cases t with
  | check c =>
    exact iff_of_true (List.forall_mem_singleton.mpr (Instruction.everywhere_check c)) nofun
  | group k cs => exact Iff.rfl

namespace Draft

open Instruction

/-- **What one step leaves empty**: nothing but alternatives that are empty. -/
theorem filledBelow_flatten_combine_iff {place : Place} {all any : List Instruction}
    (hall : ∀ t ∈ all, t.NoEmptyAny) (hany : ∀ t ∈ any, t.NoEmptyAny) :
    ((combine all any).flatten place).FilledBelow ↔
      ((∀ t ∈ all, t.FilledBelow) ∧ ∀ t ∈ any, t.FilledBelow) ∧
        ((place = .nested → all.length + any.length ≠ 1) → ∀ t ∈ any, t ≠ .group .all []) := by
  match all, any with
  | all, [] =>
    rw [combine_nil, filledBelow_flatten_all_iff hall]
    simp
  | [], t :: rest =>
    have hcombine : combine [] (t :: rest) = .group .any (t :: rest) := rfl
    rw [hcombine, filledBelow_flatten_any_iff hany]
    simp
  | u :: all, t :: rest =>
    have hcombine : combine (u :: all) (t :: rest) =
        .group .all (u :: all ++ [.group .any (t :: rest)]) := rfl
    have hcount : (u :: all).length + (t :: rest).length ≠ 1 := by
      rw [List.length_cons, List.length_cons]
      omega
    -- the group of the alternatives stays, whatever the alternatives are
    have hgroup : (group .any (t :: rest)).Filled ↔
        (∀ v ∈ t :: rest, v.FilledBelow) ∧ ∀ v ∈ t :: rest, v ≠ .group .all [] := by
      rw [Filled, everywhere_group, and_iff_right (List.cons_ne_nil t rest), ← forall₂_and]
      exact forall₂_congr fun v hv => filled_iff (hany v hv)
    rw [hcombine, flatten_of_length_ne_one place .all (by simp), imp_iff_right fun _ => hcount]
    refine (forall_mem_dissolve_concat_iff rfl).trans ?_
    rw [filled_dissolve_all_iff hall, hgroup, and_assoc]

/-! ### Instructions that ask for nothing -/

/-- The instruction asks for nothing: an empty list or object, or one of nothing but instructions
    that ask for nothing, where a list and alternatives have one of them at most. -/
inductive AsksNothing : Json → Prop
  | list : AsksNothing (.arr [])
  | only {i} (h : AsksNothing i) : AsksNothing (.arr [i])
  | demands {members all} (hs : isShorthand members = false)
      (hl : listed members = .ok (all, [])) (hkeys : implicitConditions members = [])
      (h : ∀ i ∈ all, AsksNothing i) : AsksNothing (.obj members)
  | alternative {members i} (hs : isShorthand members = false)
      (hl : listed members = .ok ([], [i])) (hkeys : implicitConditions members = [])
      (h : AsksNothing i) : AsksNothing (.obj members)

theorem asksNothing_arr_iff {items : List Json} :
    AsksNothing (.arr items) ↔ items = [] ∨ ∃ i, items = [i] ∧ AsksNothing i := by
  constructor
  · intro h
    cases h with
    | list => exact Or.inl rfl
    | only h => exact Or.inr ⟨_, rfl, h⟩
  · rintro (rfl | ⟨i, rfl, h⟩)
    · exact .list
    · exact .only h

theorem asksNothing_obj_iff {members : List (String × Json)} {all any : List Json}
    (hs : isShorthand members = false) (hl : listed members = .ok (all, any)) :
    AsksNothing (.obj members) ↔ implicitConditions members = [] ∧
      ((any = [] ∧ ∀ i ∈ all, AsksNothing i) ∨ (all = [] ∧ ∃ i, any = [i] ∧ AsksNothing i)) := by
  constructor
  · intro h
    cases h with
    | demands _ hl' hkeys h =>
      cases hl.symm.trans hl'
      exact ⟨hkeys, Or.inl ⟨rfl, h⟩⟩
    | alternative _ hl' hkeys h =>
      cases hl.symm.trans hl'
      exact ⟨hkeys, Or.inr ⟨rfl, _, rfl, h⟩⟩
  · rintro ⟨hkeys, ⟨rfl, h⟩ | ⟨rfl, i, rfl, h⟩⟩
    · exact .demands hs hl hkeys h
    · exact .alternative hs hl hkeys h

/-- A step of reading below the root leaves the empty `all` group iff there is nothing but such
    groups, and one alternative at most. -/
theorem flatten_combine_eq_empty_iff {all any : List Instruction} :
    (combine all any).flatten .nested = .group .all [] ↔
      (any = [] ∧ ∀ t ∈ all, t = .group .all []) ∨ (all = [] ∧ any = [.group .all []]) := by
  match all, any with
  | all, [] =>
    rw [combine_nil]
    rcases flatten_group .nested .all all with ⟨-, t, rfl, hflat⟩ | ⟨-, hflat⟩
    · rw [hflat]
      simp
    · rw [hflat]
      simp [dissolve_eq_nil_iff]
  | [], [t] =>
    have hcombine : combine [] [t] = .group .any [t] := rfl
    rw [hcombine, flatten_nested_singleton]
    simp
  | [], t :: u :: rest =>
    have hcombine : combine [] (t :: u :: rest) = .group .any (t :: u :: rest) := rfl
    rw [hcombine, flatten_of_length_ne_one .nested .any (by simp)]
    simp
  | a :: all, t :: rest =>
    have hcombine : combine (a :: all) (t :: rest) =
        .group .all (a :: all ++ [.group .any (t :: rest)]) := rfl
    rw [hcombine, flatten_of_length_ne_one .nested .all (by simp)]
    simp [dissolve_eq_nil_iff]

theorem forall_eq_empty_append_iff {ts : List Instruction} (members : List (String × Json)) :
    (∀ t ∈ ts ++ implicitConditions members, t = .group .all []) ↔
      implicitConditions members = [] ∧ ∀ t ∈ ts, t = .group .all [] := by
  have himplicit : (∀ t ∈ implicitConditions members, t = .group .all []) ↔
      implicitConditions members = [] := by
    rw [List.eq_nil_iff_forall_not_mem]
    refine forall₂_congr fun t ht => iff_of_false ?_ (fun h => h)
    obtain ⟨m, -, rfl⟩ := List.mem_map.mp ht
    nofun
  rw [List.forall_mem_append, himplicit, and_comm]

theorem exists_only_iff {items : List Json} {ts : List Instruction}
    (h : List.Forall₂ (fun i t => AsksNothing i ↔ t = .group .all []) items ts) :
    (∃ i, items = [i] ∧ AsksNothing i) ↔ ts = [.group .all []] := by
  cases h with
  | nil => simp
  | cons hi hrest =>
    cases hrest with
    | nil => simp [hi]
    | cons _ _ => simp

/-- **What asks for nothing is read as an empty `all` group**, and nothing else is. -/
theorem asksNothing_iff {i : Json} {t : Instruction} (h : Reads i t) :
    AsksNothing i ↔ t = .group .all [] := by
  obtain ⟨room, h⟩ := h
  -- below the root only, since the absent instruction is an empty `all` group at the root
  refine normalizeValue_induction (P := fun _ place j t => place = .nested →
    (AsksNothing j ↔ t = .group .all [])) ?_ h rfl
  rintro _ place j t hspells rfl
  have hspells := hspells.mono fun _ _ hi => hi rfl
  cases hspells with
  | name s => exact iff_of_false nofun nofun
  | null => exact iff_of_false nofun nofun
  | bool b => exact iff_of_false nofun nofun
  | num n => exact iff_of_false nofun nofun
  | list hitems =>
    rw [asksNothing_arr_iff, flatten_combine_eq_empty_iff, exists_only_iff hitems,
      eq_nil_iff_of_forall₂ hitems]
    simp
  | shorthand hs hc =>
    refine iff_of_false (fun hnothing => ?_) nofun
    cases hnothing with
    | demands hs' => cases hs.symm.trans hs'
    | alternative hs' => cases hs.symm.trans hs'
  | @object _ members _ _ alls _ hs hl hall hany =>
    have halls : alls ++ implicitConditions members = [] ↔
        implicitConditions members = [] ∧ alls = [] := by
      rw [List.append_eq_nil_iff, and_comm]
    rw [asksNothing_obj_iff hs hl, flatten_combine_eq_empty_iff, forall_eq_empty_append_iff,
      exists_only_iff hany, eq_nil_iff_of_forall₂ hany, eq_nil_iff_of_forall₂ hall, halls,
      forall_mem_iff_of_forall₂ hall]
    tauto

/-! ### Written instructions -/

/-- No alternative asks for nothing, unless it is all that is asked for below the root. -/
def SuppliedBeside (place : Place) (others : Nat) (any : List Json) : Prop :=
  (place = .nested → others + any.length ≠ 1) → ∀ i ∈ any, ¬ AsksNothing i

/-- The alternatives of an instruction ask for something. -/
def Supplied : Place → Json → Prop := AlternativesSatisfy SuppliedBeside

theorem suppliedBeside_iff {place : Place} {others : Nat} {any : List Json}
    {anys : List Instruction} (h : List.Forall₂ Reads any anys) :
    SuppliedBeside place others any ↔
      ((place = .nested → others + anys.length ≠ 1) → ∀ t ∈ anys, t ≠ .group .all []) := by
  have hrow := h.imp fun _ _ hread => not_congr (asksNothing_iff hread)
  rw [SuppliedBeside, h.length_eq, forall_mem_iff_of_forall₂ hrow]

/-- **Empty groups are left by alternatives alone.** -/
theorem filledBelow_decidedByAlternatives :
    DecidedByAlternatives (fun _ t => t.NoEmptyAny) FilledBelow SuppliedBeside where
  check _ c := ⟨noEmptyAny_check c, nofun⟩
  absent := ⟨noEmptyAny_all (List.forall_mem_nil _), List.forall_mem_nil _⟩
  combine place alls any anys halls hanys hreads := by
    refine ⟨noEmptyAny_flatten place (noEmptyAny_combine halls hanys), ?_⟩
    rw [suppliedBeside_iff hreads]
    exact filledBelow_flatten_combine_iff halls hanys

/-- **When every part of a failure text says something.**  With all names built in and no node too
    deep, each child of a group is described by a text that is not empty iff neither the
    instruction nor any one inside it has an alternative that asks for nothing beside anything
    else, or at the root.  The engine that searches for patterns may be any. -/
theorem worded_iff_of_normalize {ε ρ : Type} {engine : Pattern.Engine ε ρ} {j : Json}
    {overrides : Settings} {r : Requirement}
    (h : (normalize { body := .written j, overrides }).result = .ok r)
    (hknown : r.Known (.builtinWith engine)) : r.Worded (.builtinWith engine) ↔
      Supplied .root j ∧ ∀ p ∈ (positions 1 j).tail, Supplied .nested p.value := by
  rcases normalize_eq_ok h with h | ⟨t, ht, rfl⟩
  · cases h
  · have hread : (normalizeValue maxDepth .root j).result = .ok t := ht
    obtain ⟨-, hfilled⟩ := filledBelow_decidedByAlternatives.toldAtPositions hread
    rw [Requirement.worded_iff (Registry.speaks_builtinWith engine) hknown,
      Requirement.filledBelow_ofInstruction_iff]
    exact hfilled 1

/-- Demands that ask for nothing, and an alternative with such a demand. -/
def hollowDemands : Json := .obj [("isInteger", .bool true),
  ("and", .arr [.obj [], .arr [.arr []]]),
  ("or", .arr [.str "isString", .obj [("all", .arr [.obj [("any", .arr [.obj []])],
    .str "empty"])]])]

def filledRequirement : Requirement := ⟨.all, [.check ⟨"isInteger", [], false⟩,
  .group .any [.check ⟨"isString", [], false⟩, .group .all [.check ⟨"empty", [], false⟩]]]⟩

theorem worded_iff_of_normalize_hollowDemands :
    (normalize (ofJson hollowDemands)).result = .ok filledRequirement ∧
      filledRequirement.Known .builtin ∧ filledRequirement.Worded .builtin ∧
      Supplied .root hollowDemands ∧
      (∀ p ∈ (positions 1 hollowDemands).tail, Supplied .nested p.value) ∧
      filledRequirement.describe .builtin = .ok "(an integer && (a string or (empty)))" := by
  have hread : (normalize (ofJson hollowDemands)).result = .ok filledRequirement := rfl
  have htext : filledRequirement.describe .builtin =
      .ok "(an integer && (a string or (empty)))" := by with_unfolding_all rfl
  have hknown : filledRequirement.Known .builtin :=
    Requirement.exists_describe_eq_ok_iff.mp ⟨_, htext⟩
  have hworded : filledRequirement.Worded .builtin := by
    have hspeaks : Registry.builtin.Speaks := Registry.speaks_builtinWith Pattern.engine
    rw [Requirement.worded_iff hspeaks hknown]
    simp [filledRequirement, Requirement.root, filledBelow_group, Filled, everywhere_group,
      everywhere_check]
  obtain ⟨hroot, hbelow⟩ := (worded_iff_of_normalize hread hknown).mp hworded
  exact ⟨hread, hknown, hworded, hroot, hbelow, htext⟩

/-- An integer that is a text or anything else. -/
def emptyAlternative : Json := .obj [("isInteger", .bool true),
  ("any", .arr [.str "isString", .obj []])]

/-- **An alternative that asks for nothing leaves `or` without an operand**, in the text of a
    requirement that has checks and can fail. -/
theorem not_worded_emptyAlternative :
    ∃ r, (normalize (ofJson emptyAlternative)).result = .ok r ∧ r.hasChecks = true ∧
      r.Known .builtin ∧ ¬ r.Worded .builtin ∧
      r.describe .builtin = .ok "(an integer && (a string or ))" ∧
      (r.evaluate .builtin .null).result = .ok false := by
  refine ⟨⟨.all, [.check ⟨"isInteger", [], false⟩,
    .group .any [.check ⟨"isString", [], false⟩, .group .all []]]⟩, rfl, rfl, ?_⟩
  have htext : Requirement.describe .builtin ⟨.all, [.check ⟨"isInteger", [], false⟩,
      .group .any [.check ⟨"isString", [], false⟩, .group .all []]]⟩ =
        .ok "(an integer && (a string or ))" := by with_unfolding_all rfl
  have hknown := Requirement.exists_describe_eq_ok_iff.mp ⟨_, htext⟩
  refine ⟨hknown, ?_, htext, by with_unfolding_all rfl⟩
  have hspeaks : Registry.builtin.Speaks := Registry.speaks_builtinWith Pattern.engine
  rw [Requirement.worded_iff hspeaks hknown]
  simp [Requirement.root, filledBelow_group, Filled, everywhere_group, everywhere_check]

end Draft

end Proviso
