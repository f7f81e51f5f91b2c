/-
  Proviso/Proofs/Draft/Spelling.lean
  ==================================
  **Other spellings of the same instruction.**

  A check is asked for by a text, by a key of an object, or by an object that spells out a single
  condition.  An object that asks for several things can give them under two keywords only, with an
  object of its own for each key that names a check, and a list is short for what stands under
  `any`.

  Such spellings are read on different paths.  A single key makes a group of one condition, which
  is left out below the root and stays at the root, where the other two spellings get a group
  around them; either way there is one condition in the same place.  So all spellings of one
  condition can be put in place of each other (`interchangeable_of_spellsCondition`).  The keys of
  an object take no level of their own and the objects in their place take one, which is why an
  object is spelled with two keys only where there is one more level (`interchangeable_twoKeys`).
-/
import Proviso.Proofs.Draft.Context
import Proviso.Proofs.Instruction.Negation

namespace Proviso.Draft

/-! ### Single conditions -/

/-- On every level the value spells this condition, and a requirement of nothing else at the
    root. -/
def SpellsCondition (j : Json) (c : Condition) : Prop :=
  ∀ room, (normalizeValue (room + 1) .nested j).result = .ok (.check c) ∧
    (normalizeValue (room + 1) .root j).result.map Requirement.ofInstruction = .ok (.single c)

theorem interchangeable_of_spellsCondition {i j : Json} {c : Condition}
    (hi : SpellsCondition i c) (hj : SpellsCondition j c) (room : Nat) :
    Interchangeable room i j := by
  cases room with
  | zero => exact interchangeable_of_result_eq fun _ => rfl
  | succ room =>
    exact ⟨(hi room).1.trans (hj room).1.symm, (hi room).2.trans (hj room).2.symm⟩

theorem spellsCondition_text (s : String) :
    SpellsCondition (.str s) (Condition.ofWritten s [] false) := fun _ => ⟨rfl, rfl⟩

theorem spellsCondition_single {members : List (String × Json)} {k : String}
    (hcheck : members.lookup checkKey = some (.str k)) :
    SpellsCondition (.obj members) (Condition.ofWritten k (shorthandArgs members)
      (((members.lookup negateKey).bind Json.bool?).getD false)) := by
  have hs : isShorthand members = true := by rw [isShorthand, hcheck]; rfl
  have hc : shorthand members = .ok (Condition.ofWritten k (shorthandArgs members)
      (((members.lookup negateKey).bind Json.bool?).getD false)) := by
    rw [shorthand, hcheck]
    rfl
  intro room
  rw [result_normalizeValue_shorthand hs, result_normalizeValue_shorthand hs, hc]
  exact ⟨rfl, rfl⟩

/-- A key that is neither reserved nor `check` names a check. -/
theorem spellsCondition_key {k : String} (hk : k ∉ reservedKeys) (hcheck : k ≠ checkKey)
    (x : Json) : SpellsCondition (.obj [(k, x)]) (Condition.ofWritten k [x] false) := by
  have hlookup : ∀ {name}, name ≠ k → [(k, x)].lookup name = none := by
    intro name hne
    rw [List.lookup_cons, beq_eq_false_iff_ne.mpr hne, List.lookup_nil]
  have hreserved : ∀ {name}, name ∈ reservedKeys → [(k, x)].lookup name = none :=
    fun hname => hlookup fun heq => hk (heq ▸ hname)
  have hs : isShorthand [(k, x)] = false := by
    rw [isShorthand, hlookup hcheck.symm, hreserved (by decide)]
    rfl
  have hunder : ∀ key, itemsUnder key [(k, x)] = .ok [] := by
    intro key
    rw [itemsUnder, hreserved (mem_reservedKeys_keyword key)]
  have hl : listed [(k, x)] = .ok ([], []) := by
    rw [listed, hunder, hunder, hunder, hunder]
    rfl
  have hi : implicitConditions [(k, x)] = [.check (Condition.ofWritten k [x] false)] := by
    rw [implicitConditions, List.filter_cons_of_pos (by simpa using hk)]
    rfl
  intro room
  rw [result_normalizeValue_object hs, result_normalizeValue_object hs, hl, hi]
  exact ⟨rfl, rfl⟩

/-! ### Ways to ask for a check -/

/-- What is asked of a check: that it passes, that it does not, or that it passes with an
    argument. -/
inductive Use where
  | asserted
  | denied
  | applied (x : Json)

def Use.condition (k : String) : Use → Condition
  | .asserted => Condition.ofWritten k [] false
  | .denied => Condition.ofWritten k [] true
  | .applied x => Condition.ofWritten k [x] false

/-- The spellings of what is asked of the check `k`.  Objects that spell out a single condition may
    have their keys in any order. -/
inductive Spelling (k : String) : Use → Json → Prop where
  | text : Spelling k .asserted (.str k)
  | key_true : Spelling k .asserted (.obj [(k, .bool true)])
  | single {members} (hcheck : members.lookup checkKey = some (.str k))
      (hargs : members.lookup argsKey = none) (hnegate : members.lookup negateKey = none) :
      Spelling k .asserted (.obj members)
  | negated_text : Spelling k .denied (.str ("!" ++ k))
  | key_false : Spelling k .denied (.obj [(k, .bool false)])
  | negated_single {members} (hcheck : members.lookup checkKey = some (.str k))
      (hargs : members.lookup argsKey = none)
      (hnegate : members.lookup negateKey = some (.bool true)) :
      Spelling k .denied (.obj members)
  | key (x : Json) : Spelling k (.applied x) (.obj [(k, x)])
  | listed_argument {members} {x : Json} (hcheck : members.lookup checkKey = some (.str k))
      (hargs : members.lookup argsKey = some (.arr [x]))
      (hnegate : members.lookup negateKey = none) : Spelling k (.applied x) (.obj members)
  | sole_argument {members} {x : Json} (hnull : x ≠ .null) (hlist : ∀ items, x ≠ .arr items)
      (hcheck : members.lookup checkKey = some (.str k))
      (hargs : members.lookup argsKey = some x) (hnegate : members.lookup negateKey = none) :
      Spelling k (.applied x) (.obj members)

theorem ofWritten_negated_text (k : String) :
    Condition.ofWritten ("!" ++ k) [] false = Condition.ofWritten k [] true := by
  have hchars : ("!" ++ k).toList = '!' :: k.toList := by rw [String.toList_append]; rfl
  rw [Condition.ofWritten, hchars]
  exact congrArg (fun r => (⟨String.ofList r.1, [], r.2⟩ : Condition)) (stripNegations.eq_1 _ _)

theorem shorthandArgs_sole {members : List (String × Json)} {x : Json} (hnull : x ≠ .null)
    (hlist : ∀ items, x ≠ .arr items) (hargs : members.lookup argsKey = some x) :
    shorthandArgs members = [x] := by
  rw [shorthandArgs, hargs]
  cases x with
  | null => exact absurd rfl hnull
  | arr items => exact absurd rfl (hlist items)
  | _ => rfl

/-- **Every spelling spells the condition that is asked for.** -/
theorem spellsCondition_of_spelling {k : String} (hk : k ∉ reservedKeys) (hcheck : k ≠ checkKey)
    {use : Use} {j : Json} (h : Spelling k use j) : SpellsCondition j (use.condition k) := by
  cases h with
  | text => exact spellsCondition_text k
  | key_true => exact spellsCondition_key hk hcheck (.bool true)
  | single hname hargs hnegate =>
    have hread := spellsCondition_single hname
    rw [shorthandArgs, hargs, hnegate] at hread
    exact hread
  | negated_text =>
    have hread := spellsCondition_text ("!" ++ k)
    rw [ofWritten_negated_text] at hread
    exact hread
  | key_false => exact spellsCondition_key hk hcheck (.bool false)
  | negated_single hname hargs hnegate =>
    have hread := spellsCondition_single hname
    rw [shorthandArgs, hargs, hnegate] at hread
    exact hread
  | key x => exact spellsCondition_key hk hcheck x
  | listed_argument hname hargs hnegate =>
    have hread := spellsCondition_single hname
    rw [shorthandArgs, hargs, hnegate] at hread
    exact hread
  | sole_argument hnull hlist hname hargs hnegate =>
    have hread := spellsCondition_single hname
    rw [shorthandArgs_sole hnull hlist hargs, hnegate] at hread
    exact hread

/-- **All spellings of a check agree.**  In a written instruction every position is the hole of a
    context, and it does not matter there in which way it is asked that a check passes, that it
    does not, or that it passes with an argument: the requirement is the same, or the error. -/
theorem normalize_fill_eq_of_spelling :
    (∀ (j : Json), ∀ p ∈ positions 1 j,
      ∃ c : Context, c.fill p.value = j ∧ c.level = p.level) ∧
    ∀ (k : String), k ∉ reservedKeys → k ≠ checkKey → ∀ (use : Use) (i j : Json),
      Spelling k use i → Spelling k use j → ∀ (c : Context) (overrides : Settings),
        (normalize { body := .written (c.fill i), overrides }).result =
          (normalize { body := .written (c.fill j), overrides }).result := by
  constructor
  · intro j p hp
    obtain ⟨c, hfill, hlevel⟩ := exists_fill_of_mem_positions j hp
    exact ⟨c, hfill, by rw [← hlevel, Context.level, Nat.add_comm]⟩
  · intro k hk hcheck use i j hi hj c overrides
    have hi := spellsCondition_of_spelling hk hcheck hi
    have hj := spellsCondition_of_spelling hk hcheck hj
    exact (interchangeable_of_spellsCondition hi hj _).result_normalize_fill overrides

/-- An alternative beside another one, in an object that asks for more. -/
def besideEmpty : Context :=
  .member [("isArray", .bool false)] .any [.str "empty"] (.item [] .hole []) [] []

def deniedRequirement : Requirement := ⟨.all, [.check ⟨"isArray", [], true⟩,
  .group .any [.check ⟨"empty", [], false⟩, .check ⟨"String", [], false⟩]]⟩

theorem normalize_fill_eq_of_spelling_besideEmpty :
    "nonString" ∉ reservedKeys ∧ "nonString" ≠ checkKey ∧
    Spelling "nonString" .denied (.str "!nonString") ∧
    Spelling "nonString" .denied (.obj [("nonString", .bool false)]) ∧
    Spelling "nonString" .denied
      (.obj [(negateKey, .bool true), (checkKey, .str "nonString")]) ∧
    (normalize (ofJson (besideEmpty.fill (.str "!nonString")))).result = .ok deniedRequirement ∧
    (normalize (ofJson (besideEmpty.fill (.obj [("nonString", .bool false)])))).result =
      .ok deniedRequirement ∧
    (normalize (ofJson (besideEmpty.fill
      (.obj [(negateKey, .bool true), (checkKey, .str "nonString")])))).result =
        .ok deniedRequirement := by
  have hk : "nonString" ∉ reservedKeys := by decide
  have hcheck : "nonString" ≠ checkKey := by decide
  have htext : Spelling "nonString" .denied (.str "!nonString") := .negated_text
  have hkey : Spelling "nonString" .denied (.obj [("nonString", .bool false)]) := .key_false
  have hsingle : Spelling "nonString" .denied
      (.obj [(negateKey, .bool true), (checkKey, .str "nonString")]) :=
    .negated_single rfl rfl rfl
  have hread : (normalize (ofJson (besideEmpty.fill (.str "!nonString")))).result =
      .ok deniedRequirement := rfl
  have hagree := normalize_fill_eq_of_spelling.2 "nonString" hk hcheck .denied
  refine ⟨hk, hcheck, htext, hkey, hsingle, hread, ?_, ?_⟩
  · exact (hagree _ _ hkey htext besideEmpty {}).trans hread
  · exact (hagree _ _ hsingle htext besideEmpty {}).trans hread

/-! ### Collections -/

/-- The items under a keyword, if there is a list. -/
def itemsAt (key : Keyword) (members : List (String × Json)) : List Json :=
  match members.lookup key.text with
  | some (.arr items) => items
  | _ => []

/-- An object for each key that names a check. -/
def keyObjects (members : List (String × Json)) : List Json :=
  (members.filter fun m => !reservedKeys.contains m.1).map fun m => .obj [m]

/-- What an object asks for, under the two keys `all` and `any`. -/
def twoKeys (members : List (String × Json)) : Json :=
  .obj [(Keyword.all.text,
      .arr (itemsAt .all members ++ itemsAt .and members ++ keyObjects members)),
    (Keyword.any.text, .arr (itemsAt .any members ++ itemsAt .or members))]

section

variable {members : List (String × Json)}

theorem lookup_eq_none {name : String} (h : name ∉ members.map Prod.fst) :
    members.lookup name = none := by
  rw [List.lookup_eq_none_iff]
  intro m hm
  rw [bne_iff_ne]
  rintro rfl
  exact h (List.mem_map_of_mem hm)

theorem itemsUnder_eq_itemsAt {key : Keyword}
    (h : ∀ j, members.lookup key.text = some j → ∃ items, j = .arr items) :
    itemsUnder key members = .ok (itemsAt key members) := by
  rw [itemsUnder, itemsAt]
  cases hlookup : members.lookup key.text with
  | none => rfl
  | some j =>
    obtain ⟨items, rfl⟩ := h j hlookup
    rfl

/-- The objects for the keys spell the conditions that the keys name, one level below. -/
theorem result_forEach_keyObjects (hcheck : checkKey ∉ members.map Prod.fst) (room : Nat) :
    (Logged.forEach (normalizeValue (room + 1) .nested) (keyObjects members)).result =
      .ok (implicitConditions members) := by
  rw [Logged.result_forEach_eq_ok_iff, keyObjects, implicitConditions, List.forall₂_map_left_iff,
    List.forall₂_map_right_iff, List.forall₂_same]
  rintro ⟨k, x⟩ hm
  obtain ⟨hm, hk⟩ := List.mem_filter.mp hm
  have hreserved : k ∉ reservedKeys := by simpa using hk
  have hne : k ≠ checkKey := by
    rintro rfl
    exact hcheck (List.mem_map_of_mem hm)
  exact (spellsCondition_key hreserved hne x room).1

/-- **Two keywords are enough**, with one more level for the objects that take the place of
    keys. -/
theorem interchangeable_twoKeys (hcheck : checkKey ∉ members.map Prod.fst)
    (hargs : argsKey ∉ members.map Prod.fst)
    (hlists : ∀ (key : Keyword) j, members.lookup key.text = some j → ∃ items, j = .arr items)
    (room : Nat) : Interchangeable (room + 2) (.obj members) (twoKeys members) := by
  have hs : isShorthand members = false := by
    rw [isShorthand, lookup_eq_none hcheck, lookup_eq_none hargs]
    rfl
  have hl : listed members = .ok (itemsAt .all members ++ itemsAt .and members,
      itemsAt .any members ++ itemsAt .or members) := by
    rw [listed, itemsUnder_eq_itemsAt (hlists .all), itemsUnder_eq_itemsAt (hlists .any),
      itemsUnder_eq_itemsAt (hlists .and), itemsUnder_eq_itemsAt (hlists .or)]
    rfl
  apply interchangeable_of_result_eq
  intro place
  rw [twoKeys, result_normalizeValue_object hs, hl, result_normalizeValue_object rfl]
  -- the objects come last under `all`, in the order of the keys
  show ((Logged.forEach (normalizeValue (room + 1) .nested)
      (itemsAt .all members ++ itemsAt .and members)).result >>= _) =
    ((Logged.forEach (normalizeValue (room + 1) .nested)
      (itemsAt .all members ++ itemsAt .and members ++ keyObjects members ++ [])).result >>= _)
  rw [List.append_nil, Logged.result_forEach_append (result_forEach_keyObjects hcheck room)]
  cases (Logged.forEach (normalizeValue (room + 1) .nested)
      (itemsAt .all members ++ itemsAt .and members)).result with
  | error e => rfl
  | ok alls =>
    show ((Logged.forEach (normalizeValue (room + 1) .nested)
        (itemsAt .any members ++ itemsAt .or members)).result >>= _) =
      ((Logged.forEach (normalizeValue (room + 1) .nested)
        (itemsAt .any members ++ itemsAt .or members ++ [])).result >>= fun anys =>
          .ok ((combine (alls ++ implicitConditions members ++ []) anys).flatten place))
    rw [List.append_nil, List.append_nil]
    rfl

/-- A list is read like an object that has it under `any`. -/
theorem interchangeable_any (room : Nat) (items : List Json) :
    Interchangeable room (.arr items) (.obj [(Keyword.any.text, .arr items)]) := by
  apply interchangeable_of_result_eq
  intro place
  cases room with
  | zero => rfl
  | succ room =>
    rw [result_normalizeValue_arr, result_normalizeValue_object rfl]
    show _ = (Logged.forEach (normalizeValue room .nested) (items ++ [])).result >>= _
    rw [List.append_nil]
    cases (Logged.forEach (normalizeValue room .nested) items).result <;> rfl

end

/-- **All spellings of a collection agree.**  Above the deepest level an object without the keys
    of a single condition, and with lists under its keywords, can be spelled with the keys `all`
    and `any` alone: first what stands under `all`, what stands under `and` and an object for each
    key that names a check, then what stands under `any` and under `or`.  A list can be spelled as
    an object that has it under `any`.  The requirement is the same, or the error. -/
theorem normalize_fill_twoKeys :
    (∀ (members : List (String × Json)) (c : Context) (overrides : Settings),
      checkKey ∉ members.map Prod.fst → argsKey ∉ members.map Prod.fst →
      (∀ (key : Keyword) j, members.lookup key.text = some j → ∃ items, j = .arr items) →
      c.level < maxDepth →
        (normalize { body := .written (c.fill (.obj members)), overrides }).result =
          (normalize { body := .written (c.fill (twoKeys members)), overrides }).result) ∧
    ∀ (items : List Json) (c : Context) (overrides : Settings),
      (normalize { body := .written (c.fill (.arr items)), overrides }).result =
        (normalize
          { body := .written (c.fill (.obj [("any", .arr items)])), overrides }).result := by
  constructor
  · intro members c overrides hcheck hargs hlists hlevel
    have hroom : maxDepth - c.depth = maxDepth - c.depth - 2 + 2 := by
      rw [Context.level] at hlevel
      omega
    have hread := interchangeable_twoKeys hcheck hargs hlists (maxDepth - c.depth - 2)
    rw [← hroom] at hread
    exact hread.result_normalize_fill overrides
  · intro items c overrides
    exact (interchangeable_any _ items).result_normalize_fill overrides

/-- Keywords and names of checks in no order. -/
def scattered : List (String × Json) :=
  [("or", .arr [.str "empty"]), ("isString", .bool false),
    ("and", .arr [.obj [("isArray", .bool true), ("debug", .bool true)]]),
    ("matches", .str "^a"), ("any", .arr [.null]), ("all", .arr [.str "!absent"])]

def gatheredRequirement : Requirement := ⟨.any,
  [.group .all [.check ⟨"absent", [], true⟩, .check ⟨"isArray", [], false⟩,
      .check ⟨"isString", [], true⟩, .check ⟨"matches", [.str "^a"], false⟩,
      .group .any [.check ⟨"equals", [.null], false⟩, .check ⟨"empty", [], false⟩]],
    .check ⟨"isObject", [], false⟩]⟩

def beforeObject : Context := .item [] .hole [.str "isObject"]

theorem normalize_fill_twoKeys_scattered :
    checkKey ∉ scattered.map Prod.fst ∧ argsKey ∉ scattered.map Prod.fst ∧
    (∀ (key : Keyword) j, scattered.lookup key.text = some j → ∃ items, j = .arr items) ∧
    beforeObject.level < maxDepth ∧
    twoKeys scattered = .obj [("all", .arr [.str "!absent",
        .obj [("isArray", .bool true), ("debug", .bool true)], .obj [("isString", .bool false)],
        .obj [("matches", .str "^a")]]),
      ("any", .arr [.null, .str "empty"])] ∧
    (normalize (ofJson (beforeObject.fill (.obj scattered)))).result = .ok gatheredRequirement ∧
    (normalize (ofJson (beforeObject.fill (twoKeys scattered)))).result =
      .ok gatheredRequirement := by
  have hcheck : checkKey ∉ scattered.map Prod.fst := by decide
  have hargs : argsKey ∉ scattered.map Prod.fst := by decide
  have hlists : ∀ (key : Keyword) j, scattered.lookup key.text = some j →
      ∃ items, j = .arr items := by
    intro key j h
    cases key <;> exact ⟨_, (Option.some.inj h).symm⟩
  have hlevel : beforeObject.level < maxDepth := by decide
  have htwo : twoKeys scattered = .obj [("all", .arr [.str "!absent",
        .obj [("isArray", .bool true), ("debug", .bool true)], .obj [("isString", .bool false)],
        .obj [("matches", .str "^a")]]),
      ("any", .arr [.null, .str "empty"])] := rfl
  have hread : (normalize (ofJson (beforeObject.fill (.obj scattered)))).result =
      .ok gatheredRequirement := rfl
  have hagree := normalize_fill_twoKeys.1 scattered beforeObject {} hcheck hargs hlists hlevel
  exact ⟨hcheck, hargs, hlists, hlevel, htwo, hread, hagree.symm.trans hread⟩

end Proviso.Draft
