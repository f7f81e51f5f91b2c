/-
  Proviso/Proofs/Draft/Leaves.lean
  ================================
  **No condition is lost, doubled or altered.**

  The conditions written in a draft are told position by position: a text, a literal and a single
  condition are one each, and so is each key of any other object that names a check
  (`ownConditions`).  What a list or an object lists are positions of their own.  A requirement
  contributes its own conditions, a merge those of its drafts, and an absent draft none.

  Each step of reading combines trees and simplifies the group, and both only reorder conditions.
  So the tree that is read has the written conditions up to their order.
-/
import Proviso.Draft.Extract
import Proviso.Proofs.Draft.Positions
import Proviso.Proofs.Draft.Strip
import Proviso.Proofs.Instruction.Tree

namespace Proviso

open Instruction

namespace Draft

/-! ### Written conditions -/

/-- The conditions written at a position itself. -/
def ownConditions : Json → List Condition
  | .str name => [Condition.ofWritten name [] false]
  | .arr _ => []
  | .obj members =>
    if isShorthand members then
      ((members.lookup checkKey).bind Json.text?).toList.map fun name =>
        Condition.ofWritten name (shorthandArgs members)
          (((members.lookup negateKey).bind Json.bool?).getD false)
    else
      (members.filter fun m => !reservedKeys.contains m.1).map fun m =>
        Condition.ofWritten m.1 [m.2] false
  | j => [⟨"equals", [j], false⟩]

/-- The conditions written in an instruction below the root, whichever level it stands on. -/
def writtenConditions (level : Nat) (j : Json) : List Condition :=
  (positions level j).flatMap fun p => ownConditions p.value

/-- The conditions written in an instruction in its place: at the root, `null` asks for nothing. -/
def writtenConditionsAt (place : Place) (level : Nat) (j : Json) : List Condition :=
  if j.isNull ∧ place = .root then [] else writtenConditions level j

end Draft

namespace Body

mutual

/-- The conditions written in a body in its place. -/
def conditions : Place → Body → List Condition
  | place, .written j => Draft.writtenConditionsAt place 1 j
  | _, .settled r => r.root.conditions
  | _, .conjunction bodies => conditionsOf bodies

def conditionsOf : List Body → List Condition
  | [] => []
  | body :: rest => body.conditions .nested ++ conditionsOf rest

end

end Body

namespace Draft

def conditions (d : Draft) : List Condition := d.body.conditions .root

theorem ownConditions_shorthand {members : List (String × Json)} {c : Condition}
    (hs : isShorthand members = true) (hc : shorthand members = .ok c) :
    ownConditions (.obj members) = [c] := by
  rw [shorthand] at hc
  rw [ownConditions, if_pos hs]
  cases hname : (members.lookup checkKey).bind Json.text? with
  | none =>
    rw [hname] at hc
    cases hc
  | some name =>
    rw [hname] at hc
    cases hc
    rfl

theorem ownConditions_object {members : List (String × Json)} (hs : isShorthand members = false) :
    ownConditions (.obj members) = conditionsOf (implicitConditions members) := by
  rw [ownConditions, if_neg (by simp [hs]), implicitConditions]
  induction members.filter fun m => !reservedKeys.contains m.1 with
  | nil => rfl
  | cons m rest ih =>
    simp only [List.map_cons, conditionsOf, Instruction.conditions, ih, List.singleton_append]

theorem writtenConditions_arr (level : Nat) (items : List Json) :
    writtenConditions level (.arr items) = items.flatMap (writtenConditions (level + 1)) := by
  rw [writtenConditions, positions, List.flatMap_cons, positionsOf_eq_flatMap, List.flatMap_assoc]
  rfl

theorem writtenConditions_shorthand {members : List (String × Json)} {c : Condition}
    (hs : isShorthand members = true) (hc : shorthand members = .ok c) (level : Nat) :
    writtenConditions level (.obj members) = [c] := by
  rw [writtenConditions, positions_of_isShorthand hs, List.flatMap_singleton,
    ownConditions_shorthand hs hc]

theorem writtenConditions_object {members : List (String × Json)} {all any : List Json}
    (hs : isShorthand members = false) (hl : listed members = .ok (all, any)) (level : Nat) :
    writtenConditions level (.obj members) =
      conditionsOf (implicitConditions members) ++
        (all.flatMap (writtenConditions (level + 1)) ++
          any.flatMap (writtenConditions (level + 1))) := by
  rw [writtenConditions, positions_obj hs hl, List.flatMap_cons, ownConditions_object hs,
    positionsOf_eq_flatMap, positionsOf_eq_flatMap, List.flatMap_append, List.flatMap_assoc,
    List.flatMap_assoc]
  rfl

/-! ### Reading keeps the written conditions -/

theorem conditions_combine (all any : List Instruction) :
    (combine all any).conditions = conditionsOf all ++ conditionsOf any := by
  cases any with
  | nil => simp [combine, conditions_group, conditionsOf]
  | cons t rest =>
    cases all with
    | nil => simp [combine, conditions_group, conditionsOf]
    | cons u all => simp [combine, conditions_group, conditionsOf_append, conditionsOf]

/-- A row of trees with the conditions of the values they were read from. -/
theorem conditionsOf_perm {items : List Json} {ts : List Instruction}
    (h : List.Forall₂ (fun j t => ∀ level, t.conditions.Perm (writtenConditionsAt .nested level j))
      items ts) (level : Nat) :
    (conditionsOf ts).Perm (items.flatMap (writtenConditions level)) := by
  induction h with
  | nil => exact List.Perm.refl _
  | @cons j t _ _ ht _ ih =>
    have hj : writtenConditionsAt .nested level j = writtenConditions level j := if_neg (by simp)
    rw [conditionsOf, List.flatMap_cons, ← hj]
    exact (ht level).append ih

/-- **Reading keeps the written conditions**, up to their order. -/
theorem conditions_perm_of_normalizeValue {room : Nat} {place : Place} {j : Json}
    {t : Instruction} (h : (normalizeValue room place j).result = .ok t) (level : Nat) :
    t.conditions.Perm (writtenConditionsAt place level j) := by
  refine normalizeValue_induction (P := fun _ place j t =>
    ∀ level, t.conditions.Perm (writtenConditionsAt place level j)) ?_ h level
  intro room place j t hspells level
  cases hspells with
  | name s => exact List.Perm.refl _
  | absent => exact List.Perm.refl _
  | null => exact List.Perm.refl _
  | bool b => exact List.Perm.refl _
  | num n => exact List.Perm.refl _
  | @list _ items ts hitems =>
    have hwritten : writtenConditionsAt place level (.arr items) =
        items.flatMap (writtenConditions (level + 1)) := writtenConditions_arr level items
    have hcombine : (combine [] ts).conditions = conditionsOf ts := conditions_combine [] ts
    rw [hwritten]
    refine (conditions_flatten_perm place _).trans ?_
    rw [hcombine]
    exact conditionsOf_perm hitems (level + 1)
  | @shorthand _ members c hs hc =>
    have hwritten : writtenConditionsAt place level (.obj members) = [c] :=
      writtenConditions_shorthand hs hc level
    rw [hwritten]
    exact List.Perm.refl _
  | @object _ members all any alls anys hs hl hall hany =>
    have hwritten : writtenConditionsAt place level (.obj members) =
        conditionsOf (implicitConditions members) ++
          (all.flatMap (writtenConditions (level + 1)) ++
            any.flatMap (writtenConditions (level + 1))) := writtenConditions_object hs hl level
    have halls := conditionsOf_perm hall (level + 1)
    have hanys := conditionsOf_perm hany (level + 1)
    rw [hwritten]
    refine (conditions_flatten_perm place _).trans ?_
    rw [conditions_combine, conditionsOf_append]
    -- the checks that keys name stand behind what is listed under `all` and `and`
    refine (List.perm_append_comm.append_right _).trans ?_
    rw [List.append_assoc]
    exact (halls.append hanys).append_left _

theorem conditions_perm_of_normalizeBody {room : Nat} {place : Place} {body : Body}
    {t : Instruction} (h : (normalizeBody room place body).result = .ok t) :
    t.conditions.Perm (body.conditions place) := by
  refine normalizeBody_induction
    (P := fun _ place body t => t.conditions.Perm (body.conditions place)) ?_ ?_ ?_ h
  · intro room place j t ht
    rw [Body.conditions]
    exact conditions_perm_of_normalizeValue ht 1
  · intro room place r
    rw [Body.conditions]
    exact conditions_flatten_perm place r.root
  · intro room place bodies ts hts
    rw [Body.conditions]
    refine (conditions_flatten_perm place _).trans ?_
    rw [conditions_group]
    induction hts with
    | nil => exact List.Perm.refl _
    | cons ht _ ih =>
      rw [conditionsOf, Body.conditionsOf]
      exact ht.append ih

theorem conditions_ofInstruction (t : Instruction) :
    (Requirement.ofInstruction t).root.conditions = t.conditions := by
  cases t with
  | check c => rfl
  | group k cs => rfl

theorem conditions_perm_of_normalize {d : Draft} {r : Requirement}
    (h : d.normalize.result = .ok r) : r.root.conditions.Perm d.conditions := by
  rcases normalize_eq_ok h with hbody | ⟨t, ht, rfl⟩
  · rw [conditions, hbody, Body.conditions]
  · rw [conditions_ofInstruction]
    exact conditions_perm_of_normalizeBody ht

/-! ### Merges -/

theorem positionsUnder_strip (key : Keyword) (level : Nat) (members : List (String × Json)) :
    positionsUnder key level (members.filter fun m => !isOptionKey m.1) =
      positionsUnder key level members := by
  induction members with
  | nil => rfl
  | cons m rest ih =>
    obtain ⟨name, j⟩ := m
    cases hname : isOptionKey name with
    | false =>
      rw [List.filter_cons_of_pos (by simp [hname])]
      cases j <;> simp [positionsUnder, ih]
    | true =>
      have hne : (key.text == name) = false := by
        rw [beq_eq_false_iff_ne]
        intro heq
        rw [← heq, isOptionKey_keyword] at hname
        cases hname
      rw [List.filter_cons_of_neg (by simp [hname]), ih]
      cases j <;> simp [positionsUnder, hne]

theorem ownConditions_strip (members : List (String × Json)) :
    ownConditions (.obj (members.filter fun m => !isOptionKey m.1)) =
      ownConditions (.obj members) := by
  cases hs : isShorthand members with
  | false =>
    rw [ownConditions_object hs, ownConditions_object (by rw [isShorthand_strip, hs]),
      implicitConditions_strip]
  | true =>
    rw [ownConditions, ownConditions, isShorthand_strip, hs, if_pos rfl, if_pos rfl, shorthandArgs,
      shorthandArgs, lookup_filter_isOptionKey (by decide), lookup_filter_isOptionKey (by decide),
      lookup_filter_isOptionKey (by decide)]

theorem writtenConditions_strip (level : Nat) (members : List (String × Json)) :
    writtenConditions level (.obj (members.filter fun m => !isOptionKey m.1)) =
      writtenConditions level (.obj members) := by
  simp only [writtenConditions, positions, List.flatMap_cons, isShorthand_strip,
    positionsUnder_strip, ownConditions_strip]

/-- A draft that is not absent contributes the same below the root and without its options. -/
theorem conditions_strip {body : Body} (h : body.isAbsent = false) :
    body.strip.conditions .nested = body.conditions .root := by
  cases body with
  | written j =>
    cases j with
    | null => cases h
    | obj members => exact writtenConditions_strip 1 members
    | _ => rfl
  | settled r => rfl
  | conjunction bodies => rfl

theorem conditions_of_isAbsent {body : Body} (h : body.isAbsent = true) :
    body.conditions .root = [] := by
  cases body with
  | written j =>
    rw [Body.conditions, writtenConditionsAt, if_pos ⟨h, rfl⟩]
  | settled r => cases h
  | conjunction bodies => cases h

theorem conditions_merge (drafts : List Draft) :
    (merge drafts).conditions = drafts.flatMap conditions := by
  show Body.conditionsOf (mergedBodies drafts) = _
  induction drafts with
  | nil => rfl
  | cons d rest ih =>
    rw [List.flatMap_cons]
    cases habsent : d.body.isAbsent with
    | true =>
      rw [mergedBodies_cons_of_isAbsent habsent, conditions, conditions_of_isAbsent habsent]
      exact ih
    | false =>
      rw [mergedBodies_cons habsent, Body.conditionsOf, conditions_strip habsent]
      exact congrArg (d.body.conditions .root ++ ·) ih

/-! ### Every written condition once -/

/-- **No condition is lost, doubled or altered.**  Whatever a draft is made of, the requirement that
    is read from it has the written conditions up to their order, and so as many of them; the
    conditions written in a merge are those of its drafts, one draft after the other. -/
theorem normalize_keeps_conditions :
    (∀ (d : Draft) (r : Requirement), d.normalize.result = .ok r →
      r.root.conditions.Perm d.conditions ∧ r.countChecks = d.conditions.length) ∧
    ∀ drafts, (merge drafts).conditions = drafts.flatMap conditions := by
  refine ⟨?_, conditions_merge⟩
  intro d r h
  have hperm : r.root.conditions.Perm d.conditions := conditions_perm_of_normalize h
  refine ⟨hperm, ?_⟩
  rw [Requirement.countChecks, countChecks_eq, hperm.length_eq]

/-- A merge of drafts of all kinds, one of them a merge itself. -/
def mixedDraft : Draft :=
  merge [ofJson (.obj [("minLength", .ofWhole { val := 2 }), ("debug", .bool true),
      ("any", .arr [.null, .arr [.str "!isString", .bool true]]),
      ("and", .arr [.obj [("check", .str "oneOf"), ("args", .arr [.null])]])]),
    absent,
    merge [ofRequirement ⟨.any, [.group .all [], .check ⟨"isArray", [], false⟩]⟩, ofJson .null,
      (ofName "minLength").debug true]]

def mixedRequirement : Requirement := ⟨.all, [.check ⟨"oneOf", [.null], false⟩,
  .check ⟨"minLength", [.ofWhole { val := 2 }], false⟩,
  .group .any [.check ⟨"equals", [.null], false⟩, .group .any [.check ⟨"isString", [], true⟩,
    .check ⟨"equals", [.bool true], false⟩]],
  .group .any [.group .all [], .check ⟨"isArray", [], false⟩],
  .check ⟨"minLength", [], false⟩]⟩

theorem normalize_keeps_conditions_mixedDraft :
    mixedDraft.normalize.result = .ok mixedRequirement ∧
      mixedRequirement.root.conditions.Perm mixedDraft.conditions ∧
      mixedRequirement.countChecks = mixedDraft.conditions.length := by
  have h : mixedDraft.normalize.result = .ok mixedRequirement := rfl
  exact ⟨h, normalize_keeps_conditions.1 _ _ h⟩

end Draft

end Proviso
