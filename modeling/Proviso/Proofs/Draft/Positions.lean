/-
  Proviso/Proofs/Draft/Positions.lean
  ===================================
  **The instructions inside a written one, and the first of them that cannot be read.**

  A position is an instruction together with its level: the root stands on level 1, and what a
  list or an object lists stands one level below it.  The keys of an object that name checks are
  no positions, whatever stands under them, and a single condition has none below it.

  `positions` puts an instruction before those it lists, and these in the order `all`, `and`,
  `any`, `or`.  Reading visits them in this order and stops at the first that is not well formed
  (`error?_normalizeValue`).  At one position the level comes first, then the keywords in the
  order `all`, `any`, `and`, `or`, which is not the order in which their lists are read.
-/
import Proviso.Proofs.Draft.Reading

namespace Proviso.Draft

/-! ### Positions -/

/-- An instruction inside a written one, with the level it stands on. -/
structure Position where
  level : Nat
  value : Json

mutual

/-- The instructions inside a written one on this level, each before those it lists. -/
def positions (level : Nat) : Json → List Position
  | .arr items => ⟨level, .arr items⟩ :: positionsOf (level + 1) items
  | .obj members => ⟨level, .obj members⟩ ::
      if isShorthand members then []
      else
        positionsUnder .all (level + 1) members ++ positionsUnder .and (level + 1) members ++
          (positionsUnder .any (level + 1) members ++ positionsUnder .or (level + 1) members)
  | j => [⟨level, j⟩]

def positionsOf (level : Nat) : List Json → List Position
  | [] => []
  | j :: rest => positions level j ++ positionsOf level rest

/-- Those of the instructions under a keyword; none if there is no list. -/
def positionsUnder (key : Keyword) (level : Nat) : List (String × Json) → List Position
  | [] => []
  | (name, .arr items) :: rest =>
    if key.text == name then positionsOf level items else positionsUnder key level rest
  | (name, _) :: rest => if key.text == name then [] else positionsUnder key level rest

end

theorem positionsOf_eq_flatMap (level : Nat) (items : List Json) :
    positionsOf level items = items.flatMap (positions level) := by
  induction items with
  | nil => rfl
  | cons j rest ih => rw [positionsOf, ih, List.flatMap_cons]

theorem positionsUnder_eq {key : Keyword} {members : List (String × Json)} {items : List Json}
    (h : itemsUnder key members = .ok items) (level : Nat) :
    positionsUnder key level members = positionsOf level items := by
  refine eq_of_itemsUnder_eq_ok rfl ?_ ?_ h
  · intro items rest
    simp [positionsUnder]
  · intro name j rest hk
    cases j <;> simp [positionsUnder, hk]

/-- The positions below an object are those of the instructions it lists. -/
theorem positions_obj {members : List (String × Json)} {all any : List Json}
    (hs : isShorthand members = false) (hl : listed members = .ok (all, any)) (level : Nat) :
    positions level (.obj members) =
      ⟨level, .obj members⟩ :: (positionsOf (level + 1) all ++ positionsOf (level + 1) any) := by
  obtain ⟨all₁, all₂, any₁, any₂, hall₁, hall₂, hany₁, hany₂, rfl, rfl⟩ := listed_eq_ok hl
  rw [positions, if_neg (by simp [hs]), positionsUnder_eq hall₁, positionsUnder_eq hall₂,
    positionsUnder_eq hany₁, positionsUnder_eq hany₂]
  simp only [positionsOf_eq_flatMap, List.flatMap_append]

theorem positions_of_isShorthand {members : List (String × Json)}
    (hs : isShorthand members = true) (level : Nat) :
    positions level (.obj members) = [⟨level, .obj members⟩] := by
  rw [positions, if_pos hs]

theorem exists_positions_eq_cons (level : Nat) (j : Json) :
    ∃ below, positions level j = ⟨level, j⟩ :: below := by
  cases j with
  | arr items => exact ⟨_, positions.eq_1 level items⟩
  | obj members => exact ⟨_, positions.eq_2 level members⟩
  | _ => exact ⟨[], rfl⟩

/-! ### Well-formed positions -/

/-- What reading asks of a position itself: a level that is not too deep, a list under every
    keyword of an object, and a text under `check` where an object spells out a single
    condition. -/
structure Position.WellFormed (p : Position) : Prop where
  level_le : p.level ≤ maxDepth
  lists : ∀ members, p.value = .obj members → isShorthand members = false →
    ∀ (key : Keyword) (j : Json), members.lookup key.text = some j → ∃ items, j = .arr items
  named : ∀ members, p.value = .obj members → isShorthand members = true →
    ∃ name, members.lookup checkKey = some (.str name)

/-- What is wrong under a keyword. -/
def misplaced? (members : List (String × Json)) (key : Keyword) : Option Error :=
  match members.lookup key.text with
  | none | some (.arr _) => none
  | some j => some (.notAList key j.kind)

/-- What is wrong with the name of a single condition. -/
def unnamed? (members : List (String × Json)) : Option Error :=
  match members.lookup checkKey with
  | some (.str _) => none
  | _ => some .missingCheckName

/-- What is wrong with an instruction itself, whatever its level. -/
def fault? : Json → Option Error
  | .obj members =>
    if isShorthand members then unnamed? members
    else [Keyword.all, .any, .and, .or].findSome? (misplaced? members)
  | _ => none

/-- What is wrong with a position itself; its level comes first. -/
def Position.offence? (p : Position) : Option Error :=
  if maxDepth < p.level then some .tooDeep else fault? p.value

theorem misplaced?_eq_none_iff {members : List (String × Json)} {key : Keyword} :
    misplaced? members key = none ↔
      ∀ j, members.lookup key.text = some j → ∃ items, j = .arr items := by
  unfold misplaced?
  cases members.lookup key.text with
  | none => simp
  | some j => cases j <;> simp

theorem unnamed?_eq_none_iff {members : List (String × Json)} :
    unnamed? members = none ↔ ∃ name, members.lookup checkKey = some (.str name) := by
  unfold unnamed?
  cases members.lookup checkKey with
  | none => simp
  | some j => cases j <;> simp

theorem fault?_obj_eq_none_iff {members : List (String × Json)} :
    fault? (.obj members) = none ↔
      (isShorthand members = false → ∀ (key : Keyword) (j : Json),
        members.lookup key.text = some j → ∃ items, j = .arr items) ∧
      (isShorthand members = true → ∃ name, members.lookup checkKey = some (.str name)) := by
  cases hs : isShorthand members with
  | true => simp [fault?, hs, unnamed?_eq_none_iff]
  | false =>
    simp only [fault?, hs, Bool.false_eq_true, if_false, List.findSome?_eq_none_iff,
      misplaced?_eq_none_iff]
    constructor
    · intro h
      refine ⟨fun _ key => h key ?_, fun ht => absurd ht (by simp)⟩
      cases key <;> simp
    · intro h key _
      exact h.1 trivial key

theorem Position.offence?_eq_none_iff {p : Position} : p.offence? = none ↔ p.WellFormed := by
  have hsplit : p.offence? = none ↔ p.level ≤ maxDepth ∧ fault? p.value = none := by
    unfold offence?
    by_cases hlevel : maxDepth < p.level
    · simp [hlevel, Nat.not_le_of_lt hlevel]
    · simp [hlevel, Nat.le_of_not_lt hlevel]
  rw [hsplit]
  constructor
  · rintro ⟨hle, hfault⟩
    refine ⟨hle, ?_, ?_⟩
    · intro members hvalue
      rw [hvalue] at hfault
      exact (fault?_obj_eq_none_iff.mp hfault).1
    · intro members hvalue
      rw [hvalue] at hfault
      exact (fault?_obj_eq_none_iff.mp hfault).2
  · intro h
    refine ⟨h.level_le, ?_⟩
    cases hvalue : p.value with
    | obj members =>
      exact fault?_obj_eq_none_iff.mpr ⟨h.lists members hvalue, h.named members hvalue⟩
    | _ => rfl

/-! ### Reading stops at the first offence -/

theorem error?_itemsUnder (key : Keyword) (members : List (String × Json)) :
    error? (itemsUnder key members) = misplaced? members key := by
  unfold itemsUnder misplaced?
  cases members.lookup key.text with
  | none => rfl
  | some j => cases j <;> rfl

/-- The keywords are looked at in the order `all`, `any`, `and`, `or`. -/
theorem error?_listed (members : List (String × Json)) :
    error? (listed members) = [Keyword.all, .any, .and, .or].findSome? (misplaced? members) := by
  have hor : ∀ (all any and : List Json), error? (itemsUnder .or members >>= fun or =>
      (pure (all ++ and, any ++ or) : Except Error (List Json × List Json))) =
        misplaced? members .or := by
    intro all any and
    rw [error?_bind (e := none) (fun _ _ => rfl), error?_itemsUnder, Option.or_none]
  have hrow : [Keyword.all, .any, .and, .or].findSome? (misplaced? members) =
      (misplaced? members .all).or ((misplaced? members .any).or
        ((misplaced? members .and).or (misplaced? members .or))) := by
    simp only [List.findSome?_cons, List.findSome?_nil]
    cases misplaced? members .all <;> cases misplaced? members .any <;>
      cases misplaced? members .and <;> cases misplaced? members .or <;> rfl
  rw [hrow, listed, error?_bind, error?_itemsUnder]
  intro all _
  rw [error?_bind, error?_itemsUnder]
  intro any _
  rw [error?_bind, error?_itemsUnder]
  intro and _
  exact hor all any and

theorem error?_shorthand (members : List (String × Json)) :
    error? (shorthand members) = unnamed? members := by
  unfold shorthand unnamed?
  cases members.lookup checkKey with
  | none => rfl
  | some j => cases j <;> rfl

def rowError? (room : Nat) (items : List Json) : Option Error :=
  items.findSome? fun j => error? (normalizeValue room .nested j).result

theorem error?_forEach_normalizeValue (room : Nat) (items : List Json) :
    error? (Logged.forEach (normalizeValue room .nested) items).result = rowError? room items :=
  Logged.error?_forEach _ _

theorem error?_normalizeValue_arr (room : Nat) (place : Place) (items : List Json) :
    error? (normalizeValue (room + 1) place (.arr items)).result = rowError? room items := by
  rw [normalizeValue, Logged.result_bind, error?_bind (e := none) (fun _ _ => rfl),
    error?_forEach_normalizeValue, Option.or_none]

/-- An object is in the way of all that it lists. -/
theorem error?_normalizeValue_of_fault {room : Nat} {place : Place}
    {members : List (String × Json)} {e : Error} (h : fault? (.obj members) = some e) :
    error? (normalizeValue (room + 1) place (.obj members)).result = some e := by
  rw [fault?] at h
  rw [normalizeValue]
  cases hs : isShorthand members with
  | true =>
    rw [hs, if_pos rfl, ← error?_shorthand] at h
    simp only [if_true]
    rw [Logged.result_bind, error?_bind (e := none) (fun _ _ => rfl), Option.or_none]
    exact h
  | false =>
    rw [hs, if_neg (by simp), ← error?_listed, error?_eq_some_iff] at h
    simp only [Bool.false_eq_true, if_false]
    rw [Logged.result_bind, Logged.result_ofExcept, h]
    rfl

theorem error?_normalizeValue_object {room : Nat} {place : Place}
    {members : List (String × Json)} {all any : List Json} (hs : isShorthand members = false)
    (hl : listed members = .ok (all, any)) :
    error? (normalizeValue (room + 1) place (.obj members)).result =
      (rowError? room all).or (rowError? room any) := by
  rw [normalizeValue]
  simp only [hs, Bool.false_eq_true, if_false]
  rw [Logged.result_bind, Logged.result_ofExcept, hl]
  show error? (Logged.result (_ >>= _)) = _
  rw [Logged.result_bind, error?_bind, error?_forEach_normalizeValue]
  intro alls _
  rw [Logged.result_bind, error?_bind (e := none) (fun _ _ => rfl), error?_forEach_normalizeValue,
    Option.or_none]

theorem findSome?_positionsOf (level : Nat) (items : List Json) :
    (positionsOf level items).findSome? Position.offence? =
      items.findSome? fun j => (positions level j).findSome? Position.offence? := by
  induction items with
  | nil => rfl
  | cons j rest ih =>
    rw [positionsOf, List.findSome?_append, ih, List.findSome?_cons]
    cases (positions level j).findSome? Position.offence? <;> rfl

/-- **The error of reading is the first offence**, on every level. -/
theorem error?_normalizeValue {room level : Nat} (h : room + level = maxDepth + 1) (place : Place)
    (j : Json) : error? (normalizeValue room place j).result =
      (positions level j).findSome? Position.offence? := by
  induction room generalizing level place j with
  | zero =>
    -- there is no room left exactly where the level is too deep
    obtain ⟨below, hpos⟩ := exists_positions_eq_cons level j
    have hoff : Position.offence? ⟨level, j⟩ = some .tooDeep := if_pos (by simp; omega)
    rw [hpos, List.findSome?_cons, hoff]
    rfl
  | succ room ih =>
    have hself : ∀ i, Position.offence? ⟨level, i⟩ = fault? i := fun i => if_neg (by simp; omega)
    have hrow : ∀ items, (positionsOf (level + 1) items).findSome? Position.offence? =
        rowError? room items := by
      intro items
      rw [findSome?_positionsOf, rowError?]
      congr 1
      funext i
      exact (ih (by omega) .nested i).symm
    cases j with
    | null => cases place <;> simp [normalizeValue, positions, hself, fault?]
    | bool b => simp [normalizeValue, positions, hself, fault?]
    | num n => simp [normalizeValue, positions, hself, fault?]
    | str s => simp [normalizeValue, positions, hself, fault?]
    | arr items =>
      rw [error?_normalizeValue_arr, positions, List.findSome?_cons, hself, hrow]
      rfl
    | obj members =>
      cases hfault : fault? (.obj members) with
      | some e =>
        obtain ⟨below, hpos⟩ := exists_positions_eq_cons level (.obj members)
        rw [error?_normalizeValue_of_fault hfault, hpos, List.findSome?_cons, hself, hfault]
      | none =>
        cases hs : isShorthand members with
        | true =>
          rw [fault?, hs, if_pos rfl, ← error?_shorthand, error?_eq_none_iff] at hfault
          obtain ⟨c, hc⟩ := hfault
          have hread : (normalizeValue (room + 1) place (.obj members)).result = .ok (.check c) :=
            (normalizeValue_shorthand_eq_ok_iff hs).mpr ⟨c, hc, rfl⟩
          rw [hread, positions_of_isShorthand hs, List.findSome?_cons, hself, fault?, hs,
            if_pos rfl, ← error?_shorthand, hc]
          rfl
        | false =>
          have hlisted : error? (listed members) = none := by
            rw [error?_listed, ← hfault, fault?, hs, if_neg (by simp)]
          obtain ⟨⟨all, any⟩, hl⟩ := error?_eq_none_iff.mp hlisted
          rw [error?_normalizeValue_object hs hl, positions_obj hs hl, List.findSome?_cons, hself,
            hfault, List.findSome?_append, hrow, hrow]

/-! ### Documents -/

/-- **Reading accepts exactly what is well formed, and reports the first offence.**  An instruction
    is read iff all its positions are well formed; if not, the error is that of the first position
    that is not. -/
theorem normalize_ok_iff_and_error_iff (j : Json) (overrides : Settings) :
    ((∃ r, (normalize { body := .written j, overrides }).result = .ok r) ↔
        ∀ p ∈ positions 1 j, p.WellFormed) ∧
      ∀ e, (normalize { body := .written j, overrides }).result = .error e ↔
        (positions 1 j).findSome? Position.offence? = some e := by
  have hread : error? (normalize { body := .written j, overrides }).result =
      (positions 1 j).findSome? Position.offence? := by
    have hvalue : error? (normalizeValue maxDepth .root j).result =
        (positions 1 j).findSome? Position.offence? := error?_normalizeValue rfl .root j
    rw [← hvalue]
    refine (congrArg error? (Logged.result_bind _ _)).trans ?_
    rw [error?_bind (e := none) (fun _ _ => rfl), Option.or_none]
    rfl
  constructor
  · rw [← error?_eq_none_iff, hread, List.findSome?_eq_none_iff]
    simp only [Position.offence?_eq_none_iff]
  · intro e
    rw [← error?_eq_some_iff, hread]

end Proviso.Draft
