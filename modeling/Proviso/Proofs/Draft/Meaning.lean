/-
  Proviso/Proofs/Draft/Meaning.lean
  =================================
  **What a written instruction says of a value**, told on the value as it is written.

  A text asks for its check, and for the opposite once per negation in front of the name.  A list
  asks for any of its items, if it has any.  An object asks for all of its `all` and `and` items
  and of the checks its other keys name, and for any of its `any` and `or` items, if it has any.
  Nothing here is reordered, grouped or simplified.

  Reading keeps this meaning (`holds_of_normalizeValue`), so a verdict on the tree that was read
  is the meaning of what was written.
-/
import Proviso.Check.Kind
import Proviso.Check.Size
import Proviso.Proofs.Draft.Reading
import Proviso.Proofs.Instruction.Meaning

namespace Proviso

/-! ### Names with negations -/

namespace Assignment

/-- What a name asks for: every `!`, `not` or `non` in front asks for the opposite. -/
def named (σ : Assignment) (args : List Json) (value : Json) : List Char → Bool
  | '!' :: rest => !σ.named args value rest
  | 'n' :: 'o' :: 't' :: rest => !σ.named args value rest
  | 'n' :: 'o' :: 'n' :: rest => !σ.named args value rest
  | name => σ (String.ofList name) args value

/-- What a check asks for as it is written: a single boolean argument is no argument, but says
    whether the check or its opposite is asked for, whatever `negate` says. -/
def asked (σ : Assignment) (value : Json) (name : String) (args : List Json) (negate : Bool) :
    Bool :=
  match args with
  | [.bool asserted] => σ.named [] value name.toList == asserted
  | _ => σ.named args value name.toList != negate

theorem named_eq_of_stripNegations (σ : Assignment) (args : List Json) (value : Json)
    (name : List Char) (negate : Bool) :
    (σ (String.ofList (stripNegations name negate).1) args value !=
      (stripNegations name negate).2) = (σ.named args value name != negate) := by
  fun_induction stripNegations name negate with
  | case1 negate rest ih => rw [ih, named]; simp
  | case2 negate rest ih => rw [ih, named]; simp
  | case3 negate rest ih => rw [ih, named]; simp
  | case4 name negate h₁ h₂ h₃ => rw [named]; all_goals assumption

end Assignment

theorem Condition.holds_ofWritten (σ : Assignment) (value : Json) (name : String)
    (args : List Json) (negate : Bool) :
    (Condition.ofWritten name args negate).holds σ value = σ.asked value name args negate := by
  have h : (Condition.ofWritten name args negate).holds σ value =
      (σ.named (readArguments args negate).1 value name.toList !=
        (readArguments args negate).2) := by
    rw [← Assignment.named_eq_of_stripNegations]
    rfl
  rw [h]
  by_cases hbool : ∃ asserted, args = [.bool asserted]
  · obtain ⟨asserted, rfl⟩ := hbool
    rw [readArguments, Assignment.asked]
    cases σ.named [] value name.toList <;> simp
  · rw [not_exists] at hbool
    rw [readArguments, Assignment.asked]
    · exact hbool
    · exact hbool

/-! ### Values -/

/-- Any of the verdicts, where there is one. -/
def anyOf (bs : List Bool) : Bool := bs.isEmpty || bs.any id

namespace Assignment

variable (σ : Assignment) (value : Json)

/-- What the keys of an object that name checks ask for. -/
def implicitMeaning (members : List (String × Json)) : Bool :=
  (members.filter fun m => !Draft.reservedKeys.contains m.1).all fun m =>
    σ.asked value m.1 [m.2] false

/-- What an object that spells out a single condition asks for. -/
def shorthandMeaning (members : List (String × Json)) : Bool :=
  ((members.lookup Draft.checkKey).bind Json.text?).any fun name =>
    σ.asked value name (Draft.shorthandArgs members)
      (((members.lookup Draft.negateKey).bind Json.bool?).getD false)

mutual

/-- What an instruction below the root asks for. -/
def meaning : Json → Bool
  | .str name => σ.asked value name [] false
  | .arr items => anyOf (meanings items)
  | .obj members =>
    if Draft.isShorthand members then σ.shorthandMeaning value members
    else
      (meaningsUnder .all members).all id && (meaningsUnder .and members).all id &&
        σ.implicitMeaning value members &&
        anyOf (meaningsUnder .any members ++ meaningsUnder .or members)
  | j => σ "equals" [j] value

def meanings : List Json → List Bool
  | [] => []
  | j :: rest => meaning j :: meanings rest

/-- What each instruction under a keyword asks for; none if there is no list. -/
def meaningsUnder (key : Keyword) : List (String × Json) → List Bool
  | [] => []
  | (name, .arr items) :: rest =>
    if key.text == name then meanings items else meaningsUnder key rest
  | (name, _) :: rest => if key.text == name then [] else meaningsUnder key rest

end

/-- What an instruction asks for in its place: at the root, `null` asks for nothing. -/
def meaningAt (place : Place) (j : Json) : Bool :=
  (place == .root && j.isNull) || σ.meaning value j

theorem meanings_eq_map (items : List Json) :
    σ.meanings value items = items.map (σ.meaning value) := by
  induction items with
  | nil => rfl
  | cons j rest ih => rw [meanings, ih, List.map_cons]

/-- The instructions under a keyword are those that reading finds there. -/
theorem meaningsUnder_eq_map {key : Keyword} {members : List (String × Json)}
    {items : List Json} (h : Draft.itemsUnder key members = .ok items) :
    σ.meaningsUnder value key members = items.map (σ.meaning value) := by
  rw [← meanings_eq_map]
  refine Draft.eq_of_itemsUnder_eq_ok rfl ?_ ?_ h
  · intro items rest
    simp [meaningsUnder]
  · intro name j rest hk
    cases j <;> simp [meaningsUnder, hk]

theorem meaningAt_nested (j : Json) : σ.meaningAt value .nested j = σ.meaning value j := rfl

theorem meaningAt_of_isNull_eq_false (place : Place) {j : Json} (h : j.isNull = false) :
    σ.meaningAt value place j = σ.meaning value j := by
  rw [meaningAt, h, Bool.and_false, Bool.false_or]

end Assignment

/-! ### Reading keeps the meaning -/

namespace Draft

variable {σ : Assignment} {value : Json}

theorem holds_combine (all any : List Instruction) :
    (combine all any).holds σ value =
      ((all.map (·.holds σ value)).all id && anyOf (any.map (·.holds σ value))) := by
  cases any with
  | nil => simp [combine, Connective.verdict, anyOf]
  | cons t rest =>
    cases all with
    | nil => simp [combine, Connective.verdict, anyOf]
    | cons u all => simp [combine, Connective.verdict, anyOf, Bool.and_assoc]

theorem holds_literal (j : Json) : (literal j).holds σ value = σ "equals" [j] value := by
  rw [literal, Instruction.holds_check, Condition.holds, Bool.bne_false]

theorem holds_implicitConditions (members : List (String × Json)) :
    ((implicitConditions members).map (·.holds σ value)).all id =
      σ.implicitMeaning value members := by
  simp [implicitConditions, Assignment.implicitMeaning, Condition.holds_ofWritten,
    Function.comp_def]

theorem holds_shorthand {members : List (String × Json)} {c : Condition}
    (h : shorthand members = .ok c) : c.holds σ value = σ.shorthandMeaning value members := by
  rw [shorthand] at h
  rw [Assignment.shorthandMeaning]
  cases hname : (members.lookup checkKey).bind Json.text? with
  | none =>
    rw [hname] at h
    cases h
  | some name =>
    rw [hname] at h
    cases h
    rw [Condition.holds_ofWritten, Option.any_some]

/-- A row of trees that keeps the meanings of the values they were read from. -/
theorem map_holds_eq {items : List Json} {ts : List Instruction}
    (h : List.Forall₂ (fun j t => t.holds σ value = σ.meaningAt value .nested j) items ts) :
    ts.map (·.holds σ value) = items.map (σ.meaning value) := by
  induction h with
  | nil => rfl
  | cons ht _ ih => rw [List.map_cons, List.map_cons, ht, ih, Assignment.meaningAt_nested]

/-- **Reading keeps the meaning.** -/
theorem holds_of_normalizeValue {room : Nat} {place : Place} {j : Json} {t : Instruction}
    (h : (normalizeValue room place j).result = .ok t) :
    t.holds σ value = σ.meaningAt value place j := by
  refine normalizeValue_induction
    (P := fun _ place j t => t.holds σ value = σ.meaningAt value place j) ?_ h
  intro room place j t hspells
  cases hspells with
  | name s =>
    rw [Assignment.meaningAt_of_isNull_eq_false _ _ _ rfl]
    exact Condition.holds_ofWritten σ value s [] false
  | absent => rfl
  | null => exact holds_literal .null
  | bool b =>
    rw [Assignment.meaningAt_of_isNull_eq_false _ _ _ rfl]
    exact holds_literal (.bool b)
  | num n =>
    rw [Assignment.meaningAt_of_isNull_eq_false _ _ _ rfl]
    exact holds_literal (.num n)
  | list hitems =>
    rw [Assignment.meaningAt_of_isNull_eq_false _ _ _ rfl, Instruction.holds_flatten,
      holds_combine, map_holds_eq hitems, Assignment.meaning, Assignment.meanings_eq_map]
    simp
  | shorthand hs hc =>
    rw [Assignment.meaningAt_of_isNull_eq_false _ _ _ rfl, Instruction.holds_check,
      holds_shorthand hc, Assignment.meaning, if_pos hs]
  | @object _ members all any alls anys hs hl hall hany =>
    obtain ⟨all₁, all₂, any₁, any₂, hall₁, hall₂, hany₁, hany₂, rfl, rfl⟩ := listed_eq_ok hl
    rw [Assignment.meaningAt_of_isNull_eq_false _ _ _ rfl, Instruction.holds_flatten,
      holds_combine, List.map_append, List.all_append, holds_implicitConditions,
      map_holds_eq hall, map_holds_eq hany, Assignment.meaning, if_neg (by simp [hs]),
      Assignment.meaningsUnder_eq_map σ value hall₁, Assignment.meaningsUnder_eq_map σ value hall₂,
      Assignment.meaningsUnder_eq_map σ value hany₁, Assignment.meaningsUnder_eq_map σ value hany₂,
      List.map_append, List.map_append, List.all_append]

/-- **A verdict is the meaning of what was written.**  Whatever evaluation skips, reorders or never
    looks up: if it gives a verdict on the tree that was read, then every assignment that agrees
    with the registry gives the instruction as written that meaning. -/
theorem meaning_of_evaluate_normalize {j : Json} {overrides : Settings} {r : Requirement}
    (hr : (normalize { body := .written j, overrides }).result = .ok r)
    {registry : Registry} {σ : Assignment} (hσ : σ.AgreesWith registry) {value : Json} {b : Bool}
    (hb : (r.evaluate registry value).result = .ok b) : σ.meaningAt value .root j = b := by
  rcases normalize_eq_ok hr with h | ⟨t, ht, rfl⟩
  · cases h
  · have hread : t.holds σ value = σ.meaningAt value .root j := holds_of_normalizeValue ht
    have hverdict := Requirement.holds_of_evaluate hσ hb
    rw [← hread, ← Requirement.holds_ofInstruction, hverdict]

/-- An instruction in several spellings.  A check that is not registered stands behind an empty
    list, which asks for nothing. -/
def sample : Json := .obj [("minLength", .ofWhole { val := 0 }),
  ("any", .arr [.arr [], .str "noSuchCheck"]), ("and", .arr [.str "!notIsArray"]),
  ("isString", .bool false)]

/-- The requirement that the sample spells. -/
def sampleRequirement : Requirement := ⟨.all, [.check ⟨"IsArray", [], false⟩,
  .check ⟨"minLength", [.ofWhole { val := 0 }], false⟩, .check ⟨"isString", [], true⟩,
  .group .any [.group .all [], .check ⟨"noSuchCheck", [], false⟩]]⟩

/-- The checks of the sample that are registered. -/
def sampleRegistry : Registry :=
  .registerAll .empty [("isArray", .isArray), ("minLength", .minLength), ("isString", .isString)]

theorem meaning_of_evaluate_normalize_sample :
    (normalize (ofJson sample)).result = .ok sampleRequirement ∧
      (sampleRequirement.evaluate sampleRegistry (.arr [])).result = .ok true ∧
      sampleRegistry.assignment.meaningAt (.arr []) .root sample = true := by
  have hr : (normalize (ofJson sample)).result = .ok sampleRequirement := rfl
  have hb : (sampleRequirement.evaluate sampleRegistry (.arr [])).result = .ok true :=
    eq_ok_of_toOption_eq_some (by decide +kernel)
  exact ⟨hr, hb, meaning_of_evaluate_normalize hr sampleRegistry.assignment_agreesWith hb⟩

end Draft

end Proviso
