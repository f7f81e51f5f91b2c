/-
  Proviso/Proofs/Draft/Depth.lean
  ===============================
  **How deep the tree of a written instruction goes**, told on the value as it is written.

  Three depths are at play.  A document nests lists and objects (`Json.nesting`).  Reading counts
  one level for a list or an object, and goes down one level to what it lists.  The tree has a
  level more where an object asks both for all of something and for any of something, and one for
  the checks that the keys of an object name; reading does not count these (`Draft.levels`).

  The tree is at most as high as its counted levels, and these exceed the nesting of the document
  by at most one.  So a document of 127 nested lists and objects fits, and what is read from
  anything else fits iff its tree does.
-/
import Proviso.Check.Kind
import Proviso.Proofs.Draft.Reading
import Proviso.Proofs.Instruction.Height

namespace Proviso

/-! ### Nesting of documents -/

namespace Json

mutual

/-- The number of lists and objects around the innermost value. -/
def nesting : Json → Nat
  | .arr items => nestingOf items + 1
  | .obj members => nestingOfMembers members + 1
  | _ => 0

def nestingOf : List Json → Nat
  | [] => 0
  | j :: rest => max (nesting j) (nestingOf rest)

def nestingOfMembers : List (String × Json) → Nat
  | [] => 0
  | (_, j) :: rest => max (nesting j) (nestingOfMembers rest)

end

theorem nesting_lt_of_mem {items : List Json} {j : Json} (h : j ∈ items) :
    j.nesting < (arr items).nesting := by
  rw [nesting, Nat.lt_succ_iff]
  induction items with
  | nil => cases h
  | cons i rest ih =>
    rw [nestingOf]
    rcases List.mem_cons.mp h with rfl | h
    · exact Nat.le_max_left _ _
    · exact Nat.le_trans (ih h) (Nat.le_max_right _ _)

theorem nesting_lt_of_lookup {members : List (String × Json)} {key : String} {j : Json}
    (h : members.lookup key = some j) : j.nesting < (obj members).nesting := by
  rw [nesting, Nat.lt_succ_iff]
  induction members with
  | nil => cases h
  | cons m rest ih =>
    obtain ⟨name, i⟩ := m
    rw [List.lookup_cons] at h
    rw [nestingOfMembers]
    cases hk : key == name with
    | true =>
      rw [hk] at h
      cases h
      exact Nat.le_max_left _ _
    | false =>
      rw [hk] at h
      exact Nat.le_trans (ih h) (Nat.le_max_right _ _)

end Json

namespace Draft

open Instruction

/-! ### Reading has room for the nesting -/

theorem nesting_lt_of_mem_itemsUnder {key : Keyword} {members : List (String × Json)}
    {items : List Json} (h : itemsUnder key members = .ok items) {j : Json} (hj : j ∈ items) :
    j.nesting < (Json.obj members).nesting := by
  rw [itemsUnder] at h
  split at h
  · cases h
    cases hj
  · next found hlookup =>
    cases h
    have hlist := Json.nesting_lt_of_mem hj
    have hobject := Json.nesting_lt_of_lookup hlookup
    omega
  · cases h

theorem nesting_lt_of_lists {j i : Json} (h : Lists j i) : i.nesting < j.nesting := by
  cases h with
  | item hi => exact Json.nesting_lt_of_mem hi
  | member hl hi =>
    obtain ⟨all₁, all₂, any₁, any₂, hall₁, hall₂, hany₁, hany₂, rfl, rfl⟩ := listed_eq_ok hl
    rw [List.mem_append, List.mem_append, List.mem_append] at hi
    rcases hi with (hi | hi) | hi | hi
    · exact nesting_lt_of_mem_itemsUnder hall₁ hi
    · exact nesting_lt_of_mem_itemsUnder hall₂ hi
    · exact nesting_lt_of_mem_itemsUnder hany₁ hi
    · exact nesting_lt_of_mem_itemsUnder hany₂ hi

/-- **Reading has room for every document that nests less.** -/
theorem normalizeValue_ne_tooDeep {room : Nat} {place : Place} {j : Json}
    (hroom : j.nesting < room) : (normalizeValue room place j).result ≠ .error .tooDeep := by
  induction room generalizing place j with
  | zero => exact absurd hroom (Nat.not_lt_zero _)
  | succ room ih =>
    intro h
    rcases normalizeValue_succ_eq_error h with ⟨key, found, he⟩ | he | ⟨i, hi, h⟩
    · cases he
    · cases he
    · have hlt : i.nesting < j.nesting := nesting_lt_of_lists hi
      exact ih (by omega) h

/-! ### Levels of what is written -/

/-- The levels of a group that asks for all trees of a row and for any tree of another, where the
    rows have this many levels. -/
def combinedLevels (all any : Nat) : Nat :=
  if all = 0 ∨ any = 0 then max all any + 1 else max all (any + 1) + 1

theorem height_combine (all any : List Instruction) :
    (combine all any).height = combinedLevels (heightOf all) (heightOf any) := by
  cases any with
  | nil => simp [combine, combinedLevels, height_group, heightOf]
  | cons t rest =>
    cases all with
    | nil => simp [combine, combinedLevels, height_group, heightOf]
    | cons u all =>
      have hall : heightOf (u :: all) ≠ 0 := mt heightOf_eq_zero_iff.mp (List.cons_ne_nil u all)
      have hany : heightOf (t :: rest) ≠ 0 := mt heightOf_eq_zero_iff.mp (List.cons_ne_nil t rest)
      have hcombine : combine (u :: all) (t :: rest) =
          .group .all ((u :: all) ++ [.group .any (t :: rest)]) := rfl
      rw [hcombine, combinedLevels, if_neg (by omega), height_group, heightOf_append]
      simp [heightOf, height_group]

theorem combinedLevels_mono {all all' any any' : Nat} (hall : all ≤ all') (hany : any ≤ any') :
    combinedLevels all any ≤ combinedLevels all' any' := by
  unfold combinedLevels
  split <;> split <;> omega

mutual

/-- The levels that the tree of a written instruction has before it is simplified. -/
def levels : Json → Nat
  | .arr items => levelsOf items + 1
  | .obj members =>
    if isShorthand members then 1
    else
      combinedLevels
        (max (max (levelsUnder .all members) (levelsUnder .and members))
          (heightOf (implicitConditions members)))
        (max (levelsUnder .any members) (levelsUnder .or members))
  | _ => 1

def levelsOf : List Json → Nat
  | [] => 0
  | j :: rest => max (levels j) (levelsOf rest)

/-- The levels of the instructions under a keyword. -/
def levelsUnder (key : Keyword) : List (String × Json) → Nat
  | [] => 0
  | (name, .arr items) :: rest =>
    if key.text == name then levelsOf items else levelsUnder key rest
  | (name, _) :: rest => if key.text == name then 0 else levelsUnder key rest

end

theorem levelsUnder_eq {key : Keyword} {members : List (String × Json)} {items : List Json}
    (h : itemsUnder key members = .ok items) : levelsUnder key members = levelsOf items := by
  refine eq_of_itemsUnder_eq_ok rfl ?_ ?_ h
  · intro items rest
    simp [levelsUnder]
  · intro name j rest hk
    cases j <;> simp [levelsUnder, hk]

theorem levelsOf_append (items items' : List Json) :
    levelsOf (items ++ items') = max (levelsOf items) (levelsOf items') := by
  induction items with
  | nil => simp [levelsOf]
  | cons j rest ih => rw [List.cons_append, levelsOf, levelsOf, ih, Nat.max_assoc]

theorem heightOf_le_levelsOf {items : List Json} {ts : List Instruction}
    (h : List.Forall₂ (fun j t => t.height ≤ levels j) items ts) :
    heightOf ts ≤ levelsOf items := by
  induction h with
  | nil => exact Nat.le_refl _
  | cons ht _ ih =>
    rw [heightOf, levelsOf]
    omega

theorem heightOf_implicitConditions_le (members : List (String × Json)) :
    heightOf (implicitConditions members) ≤ 1 := by
  rw [heightOf_le_iff]
  intro t ht
  obtain ⟨m, -, rfl⟩ := List.mem_map.mp ht
  exact Nat.le_refl _

/-- **The tree is at most as high as its levels are counted.** -/
theorem height_le_levels {room : Nat} {place : Place} {j : Json} {t : Instruction}
    (h : (normalizeValue room place j).result = .ok t) : t.height ≤ levels j := by
  refine normalizeValue_induction (P := fun _ _ j t => t.height ≤ levels j) ?_ h
  intro room place j t hspells
  cases hspells with
  | name s => exact Nat.le_refl _
  | absent => exact Nat.le_refl _
  | null => exact Nat.le_refl _
  | bool b => exact Nat.le_refl _
  | num n => exact Nat.le_refl _
  | @list _ items ts hitems =>
    have hrow := heightOf_le_levelsOf hitems
    calc ((combine [] ts).flatten place).height
        ≤ (combine [] ts).height := height_flatten_le place _
      _ = combinedLevels 0 (heightOf ts) := height_combine [] ts
      _ ≤ levels (.arr items) := by
          rw [levels, combinedLevels]
          simp [hrow]
  | shorthand hs hc =>
    rw [levels, if_pos hs]
    exact Nat.le_refl _
  | @object _ members all any alls anys hs hl hall hany =>
    obtain ⟨all₁, all₂, any₁, any₂, hall₁, hall₂, hany₁, hany₂, rfl, rfl⟩ := listed_eq_ok hl
    have halls := heightOf_le_levelsOf hall
    have hanys := heightOf_le_levelsOf hany
    rw [levelsOf_append] at halls hanys
    refine Nat.le_trans (height_flatten_le place _) ?_
    rw [height_combine, heightOf_append, levels, if_neg (by simp [hs]), levelsUnder_eq hall₁,
      levelsUnder_eq hall₂, levelsUnder_eq hany₁, levelsUnder_eq hany₂]
    apply combinedLevels_mono
    · omega
    · exact hanys

mutual

/-- A document has at most one level more than it is nested. -/
theorem levels_le (j : Json) : levels j ≤ j.nesting + 1 := by
  cases j with
  | null => exact Nat.le_refl _
  | bool b => exact Nat.le_refl _
  | num n => exact Nat.le_refl _
  | str s => exact Nat.le_refl _
  | arr items =>
    have hitems := levelsOf_le items
    rw [levels, Json.nesting]
    omega
  | obj members =>
    rw [levels, Json.nesting]
    by_cases hs : isShorthand members = true
    · rw [if_pos hs]
      omega
    · have hall := levelsUnder_le .all members
      have hand := levelsUnder_le .and members
      have hany := levelsUnder_le .any members
      have hor := levelsUnder_le .or members
      have himplicit := heightOf_implicitConditions_le members
      rw [if_neg hs]
      unfold combinedLevels
      split <;> omega

theorem levelsOf_le (items : List Json) : levelsOf items ≤ Json.nestingOf items + 1 := by
  cases items with
  | nil => exact Nat.zero_le _
  | cons j rest =>
    have hj := levels_le j
    have hrest := levelsOf_le rest
    rw [levelsOf, Json.nestingOf]
    omega

theorem levelsUnder_le (key : Keyword) (members : List (String × Json)) :
    levelsUnder key members ≤ Json.nestingOfMembers members := by
  cases members with
  | nil => exact Nat.zero_le _
  | cons m rest =>
    obtain ⟨name, j⟩ := m
    have hrest := levelsUnder_le key rest
    rw [Json.nestingOfMembers]
    cases j with
    | arr items =>
      have hitems := levelsOf_le items
      rw [levelsUnder, Json.nesting]
      split <;> omega
    | _ =>
      rw [levelsUnder]
      · split <;> omega
      · intro items h
        cases h

end

/-! ### Drafts of documents -/

theorem height_le_of_normalize {j : Json} {overrides : Settings} {r : Requirement}
    (h : (normalize { body := .written j, overrides }).result = .ok r) :
    r.root.height ≤ max 2 (levels j) := by
  rcases normalize_eq_ok h with h | ⟨t, ht, rfl⟩
  · cases h
  · have hread : t.height ≤ levels j := height_le_levels ht
    have hroot := Requirement.height_root_ofInstruction_le t
    omega

theorem normalizeValue_eq_error {j : Json} {overrides : Settings} {e : Error}
    (h : (normalize { body := .written j, overrides }).result = .error e) :
    (normalizeValue maxDepth .root j).result = .error e := by
  rcases Logged.result_bind_eq_error_iff.mp h with h | ⟨t, -, h⟩
  · exact h
  · cases h

/-- **What is read fits iff its tree does**, and the tree has no more levels than are counted on
    what is written. -/
theorem fits_iff_of_normalize {j : Json} {overrides : Settings} {r : Requirement}
    (h : (normalize { body := .written j, overrides }).result = .ok r) :
    (r.Fits ↔ r.root.height ≤ maxDepth) ∧ r.root.height ≤ max 2 (levels j) := by
  constructor
  · exact Requirement.fits_iff
  · exact height_le_of_normalize h

/-! ### Reading counts fewer levels than the tree has -/

/-- Objects, each of which asks for a check and for any of the next object alone. -/
def tower : Nat → Json
  | 0 => .str "isString"
  | n + 1 => .obj [("isString", .bool true), ("any", .arr [tower n])]

/-- The tree of a tower has two levels for each object. -/
def towerTree : Nat → Instruction
  | 0 => .check ⟨"isString", [], false⟩
  | n + 1 => .group .all [.check ⟨"isString", [], false⟩, .group .any [towerTree n]]

theorem normalizeValue_tower {n room : Nat} (h : n < room) (place : Place) :
    (normalizeValue room place (tower n)).result = .ok (towerTree n) := by
  induction n generalizing room place with
  | zero =>
    cases room with
    | zero => cases h
    | succ room => rfl
  | succ n ih =>
    cases room with
    | zero => cases h
    | succ room =>
      have hs : isShorthand [("isString", .bool true), ("any", .arr [tower n])] = false := rfl
      have hread := ih (Nat.lt_of_succ_lt_succ h) .nested
      refine (normalizeValue_object_eq_ok_iff hs).mpr
        ⟨[], [tower n], [], [towerTree n], rfl, .nil, .cons hread .nil, ?_⟩
      cases place with
      | root => rfl
      | nested => rfl

theorem height_towerTree (n : Nat) : (towerTree n).height = 2 * n + 1 := by
  induction n with
  | zero => rfl
  | succ n ih =>
    simp only [towerTree, height_group, heightOf, height_check, ih]
    omega

theorem eq_of_mem_conditions_towerTree {n : Nat} {c : Condition}
    (h : c ∈ (towerTree n).conditions) : c = ⟨"isString", [], false⟩ := by
  induction n with
  | zero => exact List.mem_singleton.mp h
  | succ n ih =>
    obtain ⟨t, ht, h⟩ := mem_conditions_group.mp h
    rcases List.mem_pair.mp ht with rfl | rfl
    · exact List.mem_singleton.mp h
    · obtain ⟨t, ht, h⟩ := mem_conditions_group.mp h
      exact ih (List.mem_singleton.mp ht ▸ h)

/-- If the check passes, an evaluation goes through all levels of the tree. -/
theorem evaluateWithin_towerTree {registry : Registry} {value : Json}
    (hpass : ((⟨"isString", [], false⟩ : Condition).evaluate registry value).result = .ok true)
    {n room : Nat} (h : room < (towerTree n).height) :
    ((towerTree n).evaluateWithin registry value room).result = .error .tooDeep := by
  induction n generalizing room with
  | zero =>
    have hroom : room = 0 := Nat.lt_one_iff.mp h
    rw [hroom]
    rfl
  | succ n ih =>
    rw [height_towerTree] at h ih
    match room with
    | 0 => rfl
    | 1 => rfl
    | room + 2 =>
      -- the check lets the evaluation go on to the alternatives, which are the next object alone
      have hbelow : ((towerTree n).evaluateWithin registry value room).result = .error .tooDeep :=
        ih (by omega)
      refine Logged.result_bind_eq_error_iff.mpr (Or.inr ⟨true, hpass, ?_⟩)
      refine Logged.result_bind_eq_error_iff.mpr (Or.inl ?_)
      exact Logged.result_bind_eq_error_iff.mpr (Or.inl hbelow)

/-- What a tower of objects requires. -/
def towerRequirement (n : Nat) : Requirement := .ofInstruction (towerTree n)

theorem normalize_tower {n : Nat} (h : n < maxDepth) :
    (normalize (ofJson (tower n))).result = .ok (towerRequirement n) :=
  Logged.result_bind_eq_ok_iff.mpr ⟨towerTree n, normalizeValue_tower h .root, rfl⟩

theorem root_towerRequirement (n : Nat) : (towerRequirement (n + 1)).root = towerTree (n + 1) := rfl

theorem fits_iff_of_normalize_tower :
    (normalize (ofJson (tower 63))).result = .ok (towerRequirement 63) ∧
      (towerRequirement 63).root.height ≤ maxDepth ∧ (towerRequirement 63).Fits ∧
      (towerRequirement 63).root.height ≤ max 2 (levels (tower 63)) := by
  have hread : (normalize (ofJson (tower 63))).result = .ok (towerRequirement 63) :=
    normalize_tower (by decide)
  have hheight : (towerRequirement 63).root.height ≤ maxDepth := by
    rw [root_towerRequirement, height_towerTree]
    decide
  obtain ⟨hfits, hlevels⟩ := fits_iff_of_normalize hread
  exact ⟨hread, hheight, hfits.mpr hheight, hlevels⟩

/-- The check that a tower asks for. -/
def towerRegistry : Registry := Registry.empty.register "isString" Check.isString

/-- **Reading accepts what neither an evaluation nor a description has room for.**  As reading
    counts them, 64 objects go down 65 levels; their tree has 129. -/
theorem tower_tooDeep :
    (normalize (ofJson (tower 64))).result = .ok (towerRequirement 64) ∧
      ((towerRequirement 64).evaluate towerRegistry (.str "x")).result = .error .tooDeep ∧
      (towerRequirement 64).describe towerRegistry = .error .tooDeep := by
  have hheight : maxDepth < (towerTree 64).height := by
    rw [height_towerTree]
    decide
  refine ⟨normalize_tower (by decide), ?_, ?_⟩
  · rw [Requirement.evaluate, root_towerRequirement]
    exact evaluateWithin_towerTree (by with_unfolding_all rfl) hheight
  · rw [Requirement.describe, root_towerRequirement, describeWithin_eq_tooDeep_iff]
    · exact hheight
    · intro c hc
      rw [eq_of_mem_conditions_towerTree hc, towerRegistry, Registry.has_register]
      simp

/-! ### Documents fit -/

/-- **Every document fits** that nests at most 127 lists and objects: reading it does not go too
    deep, nor does anything that is done with what was read. -/
theorem fits_of_nesting_le {j : Json} (h : j.nesting ≤ 127) (overrides : Settings) :
    (normalize { body := .written j, overrides }).result ≠ .error .tooDeep ∧
      ∀ r, (normalize { body := .written j, overrides }).result = .ok r → r.Fits := by
  constructor
  · intro herror
    exact normalizeValue_ne_tooDeep (Nat.lt_succ_of_le h) (normalizeValue_eq_error herror)
  · intro r hr
    have hlevels : levels j ≤ j.nesting + 1 := levels_le j
    have hheight : r.root.height ≤ max 2 (levels j) := height_le_of_normalize hr
    have hdepth : maxDepth = 128 := rfl
    rw [Requirement.fits_iff]
    omega

theorem nesting_tower (n : Nat) : (tower n).nesting = 2 * n := by
  induction n with
  | zero => rfl
  | succ n ih =>
    simp only [tower, Json.nesting, Json.nestingOf, Json.nestingOfMembers, ih]
    omega

/-- The bound is sharp: in a list, a tower of 63 objects has a tree of 128 levels. -/
theorem fits_of_nesting_le_tower :
    (Json.arr [tower 63]).nesting ≤ 127 ∧
      (normalize (ofJson (.arr [tower 63]))).result = .ok ⟨.any, [towerTree 63]⟩ ∧
      (Requirement.mk .any [towerTree 63]).root.height = maxDepth ∧
      (Requirement.mk .any [towerTree 63]).Fits := by
  have hnesting : (Json.arr [tower 63]).nesting ≤ 127 := by
    rw [Json.nesting, Json.nestingOf, Json.nestingOf, nesting_tower]
    decide
  have hread : (normalize (ofJson (.arr [tower 63]))).result = .ok ⟨.any, [towerTree 63]⟩ := by
    have hitem : (normalizeValue 127 .nested (tower 63)).result = .ok (towerTree 63) :=
      normalizeValue_tower (by decide) .nested
    refine Logged.result_bind_eq_ok_iff.mpr ⟨.group .any [towerTree 63], ?_, rfl⟩
    exact normalizeValue_list_eq_ok_iff.mpr ⟨[towerTree 63], .cons hitem .nil, rfl⟩
  refine ⟨hnesting, hread, ?_, (fits_of_nesting_le hnesting {}).2 _ hread⟩
  rw [Requirement.root, height_group, heightOf, heightOf, height_towerTree]
  rfl

end Draft

end Proviso
