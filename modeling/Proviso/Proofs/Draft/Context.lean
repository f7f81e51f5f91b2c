/-
  Proviso/Proofs/Draft/Context.lean
  =================================
  **Replacing an instruction inside a written one.**

  A context is a written instruction with a hole for one of the instructions in it.  Every position
  is the hole of a context (`exists_fill_of_mem_positions`), which tells its level as well.

  Reading looks at an instruction only through the tree it spells, except that the root of a
  requirement is always a group.  So two instructions can be put in place of each other
  wherever they spell the same tree below the root, and the same requirement at the root
  (`Interchangeable.fill`).  How much room is left for them depends on their level, and nothing else
  around them matters.
-/
import Proviso.Proofs.Draft.Nest
import Proviso.Proofs.Draft.Positions

namespace Proviso.Draft

/-! ### Contexts -/

/-- A written instruction with a hole for an instruction inside it. -/
inductive Context where
  | hole
  /-- The hole is in an item of a list. -/
  | item (before : List Json) (inner : Context) (after : List Json)
  /-- The hole is in an instruction that an object lists under a keyword. -/
  | member (front : List (String × Json)) (key : Keyword) (before : List Json) (inner : Context)
      (after : List Json) (rest : List (String × Json))

namespace Context

/-- The instruction with `j` in the hole. -/
def fill : Context → Json → Json
  | .hole, j => j
  | .item before inner after, j => .arr (before ++ inner.fill j :: after)
  | .member front key before inner after rest, j =>
    .obj (front ++ (key.text, .arr (before ++ inner.fill j :: after)) :: rest)

/-- The number of lists and objects around the hole. -/
def depth : Context → Nat
  | .hole => 0
  | .item _ inner _ => inner.depth + 1
  | .member _ _ _ inner _ _ => inner.depth + 1

/-- The level of the hole. -/
def level (c : Context) : Nat := c.depth + 1

end Context

mutual

/-- **Every position is the hole of a context.** -/
theorem exists_fill_of_mem_positions {p : Position} :
    ∀ (j : Json) {level : Nat}, p ∈ positions level j →
      ∃ c : Context, c.fill p.value = j ∧ level + c.depth = p.level
  | .null, level, h => ⟨.hole, by rw [List.mem_singleton.mp h]; exact ⟨rfl, rfl⟩⟩
  | .bool _, level, h => ⟨.hole, by rw [List.mem_singleton.mp h]; exact ⟨rfl, rfl⟩⟩
  | .num _, level, h => ⟨.hole, by rw [List.mem_singleton.mp h]; exact ⟨rfl, rfl⟩⟩
  | .str _, level, h => ⟨.hole, by rw [List.mem_singleton.mp h]; exact ⟨rfl, rfl⟩⟩
  | .arr items, level, h => by
    rw [positions, List.mem_cons] at h
    rcases h with rfl | h
    · exact ⟨.hole, rfl, rfl⟩
    · obtain ⟨before, c, after, rfl, hlevel⟩ := exists_fill_of_mem_positionsOf items h
      exact ⟨.item before c after, rfl, by rw [Context.depth]; omega⟩
  | .obj members, level, h => by
    have hunder : ∀ key, p ∈ positionsUnder key (level + 1) members →
        ∃ c : Context, c.fill p.value = .obj members ∧ level + c.depth = p.level := by
      intro key h
      obtain ⟨front, before, c, after, rest, rfl, hlevel⟩ :=
        exists_fill_of_mem_positionsUnder key members h
      exact ⟨.member front key before c after rest, rfl, by rw [Context.depth]; omega⟩
    rw [positions, List.mem_cons] at h
    rcases h with rfl | h
    · exact ⟨.hole, rfl, rfl⟩
    · cases hs : isShorthand members with
      | true => simp [hs] at h
      | false =>
        simp only [hs, Bool.false_eq_true, if_false, List.mem_append] at h
        rcases h with (h | h) | h | h <;> exact hunder _ h

theorem exists_fill_of_mem_positionsOf {p : Position} :
    ∀ (items : List Json) {level : Nat}, p ∈ positionsOf level items →
      ∃ before, ∃ c : Context, ∃ after, before ++ c.fill p.value :: after = items ∧
        level + c.depth = p.level
  | [], level, h => by cases h
  | j :: rest, level, h => by
    rw [positionsOf, List.mem_append] at h
    rcases h with h | h
    · obtain ⟨c, hfill, hlevel⟩ := exists_fill_of_mem_positions j h
      exact ⟨[], c, rest, by rw [hfill]; rfl, hlevel⟩
    · obtain ⟨before, c, after, rfl, hlevel⟩ := exists_fill_of_mem_positionsOf rest h
      exact ⟨j :: before, c, after, rfl, hlevel⟩

theorem exists_fill_of_mem_positionsUnder {p : Position} (key : Keyword) :
    ∀ (members : List (String × Json)) {level : Nat}, p ∈ positionsUnder key level members →
      ∃ front before, ∃ c : Context, ∃ after rest,
        front ++ (key.text, .arr (before ++ c.fill p.value :: after)) :: rest = members ∧
          level + c.depth = p.level
  | [], level, h => by cases h
  | (name, j) :: rest, level, h => by
    cases hk : key.text == name with
    | true =>
      cases j with
      | arr items =>
        rw [positionsUnder, hk, if_pos rfl] at h
        obtain ⟨before, c, after, rfl, hlevel⟩ := exists_fill_of_mem_positionsOf items h
        exact ⟨[], before, c, after, rest, by rw [beq_iff_eq.mp hk]; rfl, hlevel⟩
      | _ => simp [positionsUnder, hk] at h
    | false =>
      have hrest : positionsUnder key level ((name, j) :: rest) =
          positionsUnder key level rest := by
        cases j <;> simp [positionsUnder, hk]
      obtain ⟨front, before, c, after, rest, rfl, hlevel⟩ :=
        exists_fill_of_mem_positionsUnder key rest (hrest ▸ h)
      exact ⟨(name, j) :: front, before, c, after, rest, rfl, hlevel⟩

end

/-! ### Rows of instructions that are read alike -/

/-- Two instructions spell the same tree below the root, with this much room. -/
def SameBelow (room : Nat) (i j : Json) : Prop :=
  (normalizeValue room .nested i).result = (normalizeValue room .nested j).result

theorem sameBelow_row_self {room : Nat} (items : List Json) :
    List.Forall₂ (SameBelow room) items items := List.forall₂_same.mpr fun _ _ => rfl

theorem sameBelow_row {room : Nat} {i j : Json} (before after : List Json)
    (h : SameBelow room i j) :
    List.Forall₂ (SameBelow room) (before ++ i :: after) (before ++ j :: after) :=
  List.rel_append (sameBelow_row_self before) (.cons h (sameBelow_row_self after))

theorem result_forEach_eq_of_sameBelow {room : Nat} {items items' : List Json}
    (h : List.Forall₂ (SameBelow room) items items') :
    (Logged.forEach (normalizeValue room .nested) items).result =
      (Logged.forEach (normalizeValue room .nested) items').result :=
  Logged.result_forEach_congr h

/-- Two objects whose keys say the same, but for the lists under their keywords. -/
structure Resembles (room : Nat) (members members' : List (String × Json)) : Prop where
  isShorthand : isShorthand members = isShorthand members'
  shorthand : shorthand members = shorthand members'
  implicit : implicitConditions members = implicitConditions members'
  items : ∀ key, Matched (List.Forall₂ (SameBelow room))
    (itemsUnder key members) (itemsUnder key members')

theorem Resembles.listed {room : Nat} {members members' : List (String × Json)}
    (h : Resembles room members members') :
    Matched (fun x y => List.Forall₂ (SameBelow room) x.1 y.1 ∧
      List.Forall₂ (SameBelow room) x.2 y.2) (listed members) (listed members') :=
  (h.items .all).bind fun _ _ hall => (h.items .any).bind fun _ _ hany =>
    (h.items .and).bind fun _ _ hand => (h.items .or).bind fun _ _ hor =>
      .ok ⟨List.rel_append hall hand, List.rel_append hany hor⟩

theorem result_normalizeValue_arr_congr {room : Nat} {items items' : List Json}
    (h : List.Forall₂ (SameBelow room) items items') (place : Place) :
    (normalizeValue (room + 1) place (.arr items)).result =
      (normalizeValue (room + 1) place (.arr items')).result := by
  rw [result_normalizeValue_arr, result_normalizeValue_arr, result_forEach_eq_of_sameBelow h]

theorem result_normalizeValue_obj_congr {room : Nat} {members members' : List (String × Json)}
    (h : Resembles room members members') (place : Place) :
    (normalizeValue (room + 1) place (.obj members)).result =
      (normalizeValue (room + 1) place (.obj members')).result := by
  cases hs : isShorthand members with
  | true =>
    rw [result_normalizeValue_shorthand hs, result_normalizeValue_shorthand (h.isShorthand ▸ hs),
      h.shorthand]
  | false =>
    rw [result_normalizeValue_object hs, result_normalizeValue_object (h.isShorthand ▸ hs),
      h.implicit]
    apply h.listed.bind_eq
    rintro x y ⟨hall, hany⟩
    rw [result_forEach_eq_of_sameBelow hall, result_forEach_eq_of_sameBelow hany]

/-! ### An object with another list under a keyword -/

section

variable {front rest : List (String × Json)} {key : Keyword} {items items' : List Json}

theorem lookup_member_of_ne {name : String} (h : (name == key.text) = false) (j : Json) :
    (front ++ (key.text, j) :: rest).lookup name = (front ++ rest).lookup name := by
  rw [List.lookup_append, List.lookup_append, List.lookup_cons, h]

theorem isShorthand_member (j : Json) :
    isShorthand (front ++ (key.text, j) :: rest) = isShorthand (front ++ rest) := by
  rw [isShorthand, lookup_member_of_ne (by cases key <;> rfl),
    lookup_member_of_ne (by cases key <;> rfl), isShorthand]

theorem shorthand_member (j : Json) :
    shorthand (front ++ (key.text, j) :: rest) = shorthand (front ++ rest) := by
  rw [shorthand, shorthandArgs, lookup_member_of_ne (by cases key <;> rfl),
    lookup_member_of_ne (by cases key <;> rfl), lookup_member_of_ne (by cases key <;> rfl),
    shorthand, shorthandArgs]

theorem mem_reservedKeys_keyword (key : Keyword) : key.text ∈ reservedKeys := by
  cases key <;> decide

theorem implicitConditions_member (j : Json) :
    implicitConditions (front ++ (key.text, j) :: rest) = implicitConditions (front ++ rest) := by
  have hdropped : (front ++ (key.text, j) :: rest).filter (fun m => !reservedKeys.contains m.1) =
      (front ++ rest).filter fun m => !reservedKeys.contains m.1 := by
    rw [List.filter_append, List.filter_cons_of_neg (by simp [mem_reservedKeys_keyword]),
      List.filter_append]
  rw [implicitConditions, hdropped, implicitConditions]

theorem matched_itemsUnder_member {room : Nat} (h : List.Forall₂ (SameBelow room) items items')
    (found : Keyword) : Matched (List.Forall₂ (SameBelow room))
      (itemsUnder found (front ++ (key.text, .arr items) :: rest))
      (itemsUnder found (front ++ (key.text, .arr items') :: rest)) := by
  rw [itemsUnder, itemsUnder, List.lookup_append, List.lookup_append, List.lookup_cons,
    List.lookup_cons]
  cases front.lookup found.text with
  | some j => exact .refl sameBelow_row_self _
  | none =>
    cases found.text == key.text with
    | true => exact .ok h
    | false => exact .refl sameBelow_row_self _

theorem resembles_member {room : Nat} (h : List.Forall₂ (SameBelow room) items items') :
    Resembles room (front ++ (key.text, .arr items) :: rest)
      (front ++ (key.text, .arr items') :: rest) where
  isShorthand := by rw [isShorthand_member, isShorthand_member]
  shorthand := by rw [shorthand_member, shorthand_member]
  implicit := by rw [implicitConditions_member, implicitConditions_member]
  items := matched_itemsUnder_member h

end

/-! ### Instructions that can be put in place of each other -/

/-- With this much room two instructions spell the same tree or have the same error, where at the
    root a single condition counts as a group of its own. -/
structure Interchangeable (room : Nat) (i j : Json) : Prop where
  below : SameBelow room i j
  root : (normalizeValue room .root i).result.map Requirement.ofInstruction =
    (normalizeValue room .root j).result.map Requirement.ofInstruction

theorem interchangeable_of_result_eq {room : Nat} {i j : Json} (h : ∀ place,
    (normalizeValue room place i).result = (normalizeValue room place j).result) :
    Interchangeable room i j :=
  ⟨h .nested, congrArg _ (h .root)⟩

/-- **What is around two instructions that can be put in place of each other does not matter**, but
    for the room that it leaves them. -/
theorem Interchangeable.fill {i j : Json} {room : Nat} {c : Context}
    (h : Interchangeable (room - c.depth) i j) : Interchangeable room (c.fill i) (c.fill j) := by
  -- a list or an object reads its instructions below the root, even if it is the root itself
  induction c generalizing room with
  | hole => exact h
  | item before inner after ih =>
    cases room with
    | zero => exact interchangeable_of_result_eq fun _ => rfl
    | succ room =>
      rw [Context.depth, Nat.add_sub_add_right] at h
      have hrow := sameBelow_row before after (ih h).below
      exact interchangeable_of_result_eq (result_normalizeValue_arr_congr hrow)
  | member front key before inner after rest ih =>
    cases room with
    | zero => exact interchangeable_of_result_eq fun _ => rfl
    | succ room =>
      rw [Context.depth, Nat.add_sub_add_right] at h
      have hrow := sameBelow_row before after (ih h).below
      exact interchangeable_of_result_eq (result_normalizeValue_obj_congr (resembles_member hrow))

theorem result_normalize_written (j : Json) (overrides : Settings) :
    (normalize { body := .written j, overrides }).result =
      (normalizeValue maxDepth .root j).result.map Requirement.ofInstruction := by
  rw [result_normalize (fun _ h => by cases h), result_normalizeBody_written]

/-- Drafts of documents that differ in such instructions have the same tree or the same error. -/
theorem Interchangeable.result_normalize_fill {i j : Json} {c : Context}
    (h : Interchangeable (maxDepth - c.depth) i j) (overrides : Settings) :
    (normalize { body := .written (c.fill i), overrides }).result =
      (normalize { body := .written (c.fill j), overrides }).result := by
  rw [result_normalize_written, result_normalize_written, h.fill.root]

end Proviso.Draft
