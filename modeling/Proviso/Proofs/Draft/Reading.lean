/-
  Proviso/Proofs/Draft/Reading.lean
  =================================
  **What one step of reading does.**

  `Spells R place j t` says that the value `j` spells the tree `t`, where `R` tells which trees
  the values listed in `j` spell.  Reading with room for one more level is `Spells` over reading
  with the room that is left (`normalizeValue_succ_eq_ok_iff`).  What a step passes on from the
  items of a value to the value therefore holds of everything that is read
  (`normalizeValue_induction`), and likewise for bodies (`normalizeBody_induction`).  The tree does
  not depend on the room: with any other room it is the same, or there is too little of it
  (`normalizeBody_ok_or_tooDeep`).

  An error of a step is that of the object itself, or comes from an instruction that is listed
  (`normalizeValue_succ_eq_error`).
-/
import Proviso.Draft.Normalize
import Proviso.Proofs.Logged.Rows

namespace Proviso.Draft

/-! ### Objects -/

/-- An object lists what stands under `all` and `and`, and what stands under `any` and `or`. -/
theorem listed_eq_ok {members : List (String × Json)} {all any : List Json}
    (h : listed members = .ok (all, any)) :
    ∃ all₁ all₂ any₁ any₂, itemsUnder .all members = .ok all₁ ∧
      itemsUnder .and members = .ok all₂ ∧ itemsUnder .any members = .ok any₁ ∧
      itemsUnder .or members = .ok any₂ ∧ all = all₁ ++ all₂ ∧ any = any₁ ++ any₂ := by
  obtain ⟨all₁, hall₁, h⟩ := bind_eq_ok_iff.mp h
  obtain ⟨any₁, hany₁, h⟩ := bind_eq_ok_iff.mp h
  obtain ⟨all₂, hall₂, h⟩ := bind_eq_ok_iff.mp h
  obtain ⟨any₂, hany₂, h⟩ := bind_eq_ok_iff.mp h
  cases h
  exact ⟨all₁, all₂, any₁, any₂, hall₁, hall₂, hany₁, hany₂, rfl, rfl⟩

theorem itemsUnder_eq_error {key : Keyword} {members : List (String × Json)} {e : Error}
    (h : itemsUnder key members = .error e) : ∃ found, e = .notAList key found := by
  rw [itemsUnder] at h
  split at h
  · cases h
  · cases h
  · exact ⟨_, (Except.error.inj h).symm⟩

theorem listed_eq_error {members : List (String × Json)} {e : Error}
    (h : listed members = .error e) : ∃ key found, e = .notAList key found := by
  rcases bind_eq_error_iff.mp h with h | ⟨_, -, h⟩
  · exact ⟨_, itemsUnder_eq_error h⟩
  rcases bind_eq_error_iff.mp h with h | ⟨_, -, h⟩
  · exact ⟨_, itemsUnder_eq_error h⟩
  rcases bind_eq_error_iff.mp h with h | ⟨_, -, h⟩
  · exact ⟨_, itemsUnder_eq_error h⟩
  rcases bind_eq_error_iff.mp h with h | ⟨_, -, h⟩
  · exact ⟨_, itemsUnder_eq_error h⟩
  · cases h

theorem shorthand_eq_error {members : List (String × Json)} {e : Error}
    (h : shorthand members = .error e) : e = .missingCheckName := by
  rw [shorthand] at h
  cases hname : (members.lookup checkKey).bind Json.text? with
  | none =>
    rw [hname] at h
    exact (Except.error.inj h).symm
  | some name =>
    rw [hname] at h
    cases h

/-- What is told of an object by the first entry under a keyword is told by the items that are found
    there. -/
theorem eq_of_itemsUnder_eq_ok {α : Type} {key : Keyword} {f : List (String × Json) → α}
    {g : List Json → α} (absent : f [] = g [])
    (found : ∀ items rest, f ((key.text, .arr items) :: rest) = g items)
    (other : ∀ name j rest, (key.text == name) = false → f ((name, j) :: rest) = f rest)
    {members : List (String × Json)} {items : List Json}
    (h : itemsUnder key members = .ok items) : f members = g items := by
  induction members with
  | nil =>
    cases h
    exact absent
  | cons m rest ih =>
    obtain ⟨name, j⟩ := m
    rw [itemsUnder, List.lookup_cons] at h
    cases hk : key.text == name with
    | false =>
      rw [hk] at h
      rw [other name j rest hk]
      exact ih h
    | true =>
      rw [hk] at h
      cases j with
      | arr items =>
        cases h
        rw [← beq_iff_eq.mp hk]
        exact found items rest
      | _ => cases h

theorem combine_nil (all : List Instruction) : combine all [] = .group .all all := by
  cases all <;> rfl

/-! ### Values -/

/-- A value spells a tree, with `R` between the values it lists and the trees they spell. -/
inductive Spells (R : Json → Instruction → Prop) : Place → Json → Instruction → Prop where
  | name {place} (s : String) :
      Spells R place (.str s) (.check (Condition.ofWritten s [] false))
  | absent : Spells R .root .null (.group .all [])
  | null : Spells R .nested .null (literal .null)
  | bool {place} (b : Bool) : Spells R place (.bool b) (literal (.bool b))
  | num {place} (n : Number) : Spells R place (.num n) (literal (.num n))
  | list {place items ts} (hitems : List.Forall₂ R items ts) :
      Spells R place (.arr items) ((combine [] ts).flatten place)
  | shorthand {place members c} (hs : isShorthand members = true)
      (hc : shorthand members = .ok c) : Spells R place (.obj members) (.check c)
  | object {place members all any alls anys} (hs : isShorthand members = false)
      (hl : listed members = .ok (all, any)) (hall : List.Forall₂ R all alls)
      (hany : List.Forall₂ R any anys) :
      Spells R place (.obj members)
        ((combine (alls ++ implicitConditions members) anys).flatten place)

theorem Spells.mono {R S : Json → Instruction → Prop} (hRS : ∀ j t, R j t → S j t)
    {place : Place} {j : Json} {t : Instruction} (h : Spells R place j t) :
    Spells S place j t := by
  cases h with
  | name s => exact .name s
  | absent => exact .absent
  | null => exact .null
  | bool b => exact .bool b
  | num n => exact .num n
  | list hitems => exact .list (hitems.imp fun _ _ => hRS _ _)
  | shorthand hs hc => exact .shorthand hs hc
  | object hs hl hall hany =>
    exact .object hs hl (hall.imp fun _ _ => hRS _ _) (hany.imp fun _ _ => hRS _ _)

/-- **One level of reading as an equation**, for a list. -/
theorem result_normalizeValue_arr (room : Nat) (place : Place) (items : List Json) :
    (normalizeValue (room + 1) place (.arr items)).result =
      (Logged.forEach (normalizeValue room .nested) items).result.map fun ts =>
        (combine [] ts).flatten place := by
  rw [normalizeValue, Logged.result_bind]
  rfl

theorem result_normalizeValue_shorthand {members : List (String × Json)}
    (hs : isShorthand members = true) (room : Nat) (place : Place) :
    (normalizeValue (room + 1) place (.obj members)).result =
      (shorthand members).map .check := by
  rw [normalizeValue]
  simp only [hs, if_true]
  rw [Logged.result_bind]
  rfl

theorem result_normalizeValue_object {members : List (String × Json)}
    (hs : isShorthand members = false) (room : Nat) (place : Place) :
    (normalizeValue (room + 1) place (.obj members)).result = (do
      let x ← listed members
      let alls ← (Logged.forEach (normalizeValue room .nested) x.1).result
      let anys ← (Logged.forEach (normalizeValue room .nested) x.2).result
      return (combine (alls ++ implicitConditions members) anys).flatten place) := by
  rw [normalizeValue]
  simp only [hs, Bool.false_eq_true, if_false, Logged.result_bind]
  rfl

theorem normalizeValue_list_eq_ok_iff {room : Nat} {place : Place} {items : List Json}
    {t : Instruction} :
    (normalizeValue (room + 1) place (.arr items)).result = .ok t ↔
      ∃ ts, List.Forall₂ (fun j t => (normalizeValue room .nested j).result = .ok t) items ts ∧
        (combine [] ts).flatten place = t := by
  rw [result_normalizeValue_arr, map_eq_ok_iff]
  simp only [Logged.result_forEach_eq_ok_iff]

theorem normalizeValue_shorthand_eq_ok_iff {room : Nat} {place : Place}
    {members : List (String × Json)} {t : Instruction} (hs : isShorthand members = true) :
    (normalizeValue (room + 1) place (.obj members)).result = .ok t ↔
      ∃ c, shorthand members = .ok c ∧ .check c = t := by
  rw [result_normalizeValue_shorthand hs, map_eq_ok_iff]

theorem normalizeValue_object_eq_ok_iff {room : Nat} {place : Place}
    {members : List (String × Json)} {t : Instruction} (hs : isShorthand members = false) :
    (normalizeValue (room + 1) place (.obj members)).result = .ok t ↔
      ∃ all any alls anys, listed members = .ok (all, any) ∧
        List.Forall₂ (fun j t => (normalizeValue room .nested j).result = .ok t) all alls ∧
        List.Forall₂ (fun j t => (normalizeValue room .nested j).result = .ok t) any anys ∧
        (combine (alls ++ implicitConditions members) anys).flatten place = t := by
  rw [result_normalizeValue_object hs]
  simp only [bind_eq_ok_iff, Logged.result_forEach_eq_ok_iff]
  constructor
  · rintro ⟨⟨all, any⟩, hl, alls, halls, anys, hanys, h⟩
    exact ⟨all, any, alls, anys, hl, halls, hanys, Except.ok.inj h⟩
  · rintro ⟨all, any, alls, anys, hl, halls, hanys, rfl⟩
    exact ⟨(all, any), hl, alls, halls, anys, hanys, rfl⟩

/-- **One level of reading.** -/
theorem normalizeValue_succ_eq_ok_iff {room : Nat} {place : Place} {j : Json}
    {t : Instruction} :
    (normalizeValue (room + 1) place j).result = .ok t ↔
      Spells (fun j t => (normalizeValue room .nested j).result = .ok t) place j t := by
  constructor
  · intro h
    cases j with
    | null =>
      cases place with
      | root => cases h; exact .absent
      | nested => cases h; exact .null
    | bool b => cases h; exact .bool b
    | num n => cases h; exact .num n
    | str s => cases h; exact .name s
    | arr items =>
      obtain ⟨ts, hts, rfl⟩ := normalizeValue_list_eq_ok_iff.mp h
      exact .list hts
    | obj members =>
      cases hs : isShorthand members with
      | true =>
        obtain ⟨c, hc, rfl⟩ := (normalizeValue_shorthand_eq_ok_iff hs).mp h
        exact .shorthand hs hc
      | false =>
        obtain ⟨all, any, alls, anys, hl, hall, hany, rfl⟩ :=
          (normalizeValue_object_eq_ok_iff hs).mp h
        exact .object hs hl hall hany
  · intro h
    cases h with
    | name s => rfl
    | absent => rfl
    | null => rfl
    | bool b => rfl
    | num n => rfl
    | list hitems => exact normalizeValue_list_eq_ok_iff.mpr ⟨_, hitems, rfl⟩
    | shorthand hs hc => exact (normalizeValue_shorthand_eq_ok_iff hs).mpr ⟨_, hc, rfl⟩
    | object hs hl hall hany =>
      exact (normalizeValue_object_eq_ok_iff hs).mpr ⟨_, _, _, _, hl, hall, hany, rfl⟩

/-- **Induction over reading.**  What passes from the items of a value to the value holds of every
    value that is read and its tree. -/
theorem normalizeValue_induction {P : Nat → Place → Json → Instruction → Prop}
    (step : ∀ room place j t, Spells (P room .nested) place j t → P (room + 1) place j t)
    {room : Nat} {place : Place} {j : Json} {t : Instruction}
    (h : (normalizeValue room place j).result = .ok t) : P room place j t := by
  induction room generalizing place j t with
  | zero => cases h
  | succ room ih =>
    have hspells := normalizeValue_succ_eq_ok_iff.mp h
    exact step room place j t (hspells.mono fun _ _ => ih)

/-! ### Other room -/

/-- What can be read is read alike with more room. -/
theorem normalizeValue_succ_eq_ok {room : Nat} {place : Place} {j : Json} {t : Instruction}
    (h : (normalizeValue room place j).result = .ok t) :
    (normalizeValue (room + 1) place j).result = .ok t := by
  induction room generalizing place j t with
  | zero => cases h
  | succ room ih =>
    rw [normalizeValue_succ_eq_ok_iff] at h ⊢
    exact h.mono fun _ _ => ih

theorem normalizeValue_eq_ok_of_le {room room' : Nat} (hle : room ≤ room') {place : Place}
    {j : Json} {t : Instruction} (h : (normalizeValue room place j).result = .ok t) :
    (normalizeValue room' place j).result = .ok t := by
  induction hle with
  | refl => exact h
  | step _ ih => exact normalizeValue_succ_eq_ok ih

/-- What can be read is read alike with any other room, or there is too little of it. -/
theorem normalizeValue_ok_or_tooDeep {room : Nat} {place : Place} {j : Json} {t : Instruction}
    (h : (normalizeValue room place j).result = .ok t) (room' : Nat) :
    (normalizeValue room' place j).result = .ok t ∨
      (normalizeValue room' place j).result = .error .tooDeep := by
  refine normalizeValue_induction
    (P := fun _ place j t => ∀ room', (normalizeValue room' place j).result = .ok t ∨
      (normalizeValue room' place j).result = .error .tooDeep) ?_ h room'
  intro _ place j t hspells room'
  cases room' with
  | zero => exact Or.inr rfl
  | succ room' =>
    have hrow : ∀ {items : List Json} {ts : List Instruction},
        List.Forall₂ (fun j t => ∀ room', (normalizeValue room' .nested j).result = .ok t ∨
          (normalizeValue room' .nested j).result = .error .tooDeep) items ts →
        (Logged.forEach (normalizeValue room' .nested) items).result = .ok ts ∨
          (Logged.forEach (normalizeValue room' .nested) items).result = .error .tooDeep :=
      fun hitems => Logged.result_forEach_ok_or (hitems.imp fun _ _ hread => hread room')
    cases hspells with
    | name s => exact Or.inl rfl
    | absent => exact Or.inl rfl
    | null => exact Or.inl rfl
    | bool b => exact Or.inl rfl
    | num n => exact Or.inl rfl
    | list hitems =>
      rw [normalizeValue, Logged.result_bind]
      exact bind_ok_or (hrow hitems) (Or.inl rfl)
    | shorthand hs hc =>
      rw [result_normalizeValue_shorthand hs, hc]
      exact Or.inl rfl
    | object hs hl hall hany =>
      rw [result_normalizeValue_object hs]
      exact bind_ok_or (Or.inl hl) (bind_ok_or (hrow hall) (bind_ok_or (hrow hany) (Or.inl rfl)))

/-- A value spells this tree below the root, as far as there is room for it. -/
def Reads (j : Json) (t : Instruction) : Prop :=
  ∃ room, (normalizeValue room .nested j).result = .ok t

theorem Reads.unique {j : Json} {t u : Instruction} (ht : Reads j t) (hu : Reads j u) : t = u := by
  obtain ⟨room, ht⟩ := ht
  obtain ⟨room', hu⟩ := hu
  have ht' := normalizeValue_eq_ok_of_le (Nat.le_max_left room room') ht
  have hu' := normalizeValue_eq_ok_of_le (Nat.le_max_right room room') hu
  rw [ht'] at hu'
  exact Except.ok.inj hu'

/-! ### Errors -/

/-- A value lists an instruction. -/
inductive Lists : Json → Json → Prop where
  | item {items i} (hi : i ∈ items) : Lists (.arr items) i
  | member {members all any i} (hl : listed members = .ok (all, any)) (hi : i ∈ all ++ any) :
      Lists (.obj members) i

/-- **Where an error of one level of reading comes from**: the object itself, or an instruction
    that is listed. -/
theorem normalizeValue_succ_eq_error {room : Nat} {place : Place} {j : Json} {e : Error}
    (h : (normalizeValue (room + 1) place j).result = .error e) :
    (∃ key found, e = .notAList key found) ∨ e = .missingCheckName ∨
      ∃ i, Lists j i ∧ (normalizeValue room .nested i).result = .error e := by
  cases j with
  | null =>
    cases place with
    | root => cases h
    | nested => cases h
  | bool b => cases h
  | num n => cases h
  | str s => cases h
  | arr items =>
    rw [normalizeValue] at h
    rcases Logged.result_bind_eq_error_iff.mp h with h | ⟨ts, -, h⟩
    · obtain ⟨i, hi, h⟩ := Logged.exists_of_result_forEach_eq_error h
      exact Or.inr (Or.inr ⟨i, .item hi, h⟩)
    · cases h
  | obj members =>
    rw [normalizeValue] at h
    cases hs : isShorthand members with
    | true =>
      simp only [hs, if_true] at h
      rcases Logged.result_bind_eq_error_iff.mp h with h | ⟨c, -, h⟩
      · exact Or.inr (Or.inl (shorthand_eq_error h))
      · cases h
    | false =>
      simp only [hs, Bool.false_eq_true, if_false] at h
      rcases Logged.result_bind_eq_error_iff.mp h with h | ⟨⟨all, any⟩, hl, h⟩
      · exact Or.inl (listed_eq_error h)
      rcases Logged.result_bind_eq_error_iff.mp h with h | ⟨alls, -, h⟩
      · obtain ⟨i, hi, h⟩ := Logged.exists_of_result_forEach_eq_error h
        exact Or.inr (Or.inr ⟨i, .member hl (List.mem_append_left any hi), h⟩)
      rcases Logged.result_bind_eq_error_iff.mp h with h | ⟨anys, -, h⟩
      · obtain ⟨i, hi, h⟩ := Logged.exists_of_result_forEach_eq_error h
        exact Or.inr (Or.inr ⟨i, .member hl (List.mem_append_right all hi), h⟩)
      · cases h

/-- Reading fails only on instructions that are malformed. -/
theorem isStructural_of_normalizeValue {room : Nat} {place : Place} {j : Json} {e : Error}
    (h : (normalizeValue room place j).result = .error e) : e.isStructural = true := by
  induction room generalizing place j with
  | zero =>
    cases h
    rfl
  | succ room ih =>
    rcases normalizeValue_succ_eq_error h with ⟨key, found, rfl⟩ | rfl | ⟨i, -, h⟩
    · rfl
    · rfl
    · exact ih h

/-! ### Bodies -/

/-- **Induction over reading bodies.** -/
theorem normalizeBody_induction {P : Nat → Place → Body → Instruction → Prop}
    (written : ∀ room place j t, (normalizeValue room place j).result = .ok t →
      P room place (.written j) t)
    (settled : ∀ room place (r : Requirement),
      P (room + 1) place (.settled r) (r.root.flatten place))
    (conjunction : ∀ room place bodies ts, List.Forall₂ (P room .nested) bodies ts →
      P (room + 1) place (.conjunction bodies) ((Instruction.group .all ts).flatten place))
    {room : Nat} {place : Place} {body : Body} {t : Instruction}
    (h : (normalizeBody room place body).result = .ok t) : P room place body t := by
  induction room generalizing place body t with
  | zero => cases h
  | succ room ih =>
    cases body with
    | written j => exact written (room + 1) place j t h
    | settled r => cases h; exact settled room place r
    | conjunction bodies =>
      obtain ⟨ts, hts, h⟩ := Logged.result_bind_eq_ok_iff.mp h
      cases h
      have hread := Logged.result_forEach_eq_ok_iff.mp hts
      exact conjunction room place bodies ts (hread.imp fun _ _ => ih)

/-- A body that can be read is read alike with more room. -/
theorem normalizeBody_succ_eq_ok {room : Nat} {place : Place} {body : Body} {t : Instruction}
    (h : (normalizeBody room place body).result = .ok t) :
    (normalizeBody (room + 1) place body).result = .ok t := by
  refine normalizeBody_induction
    (P := fun room place body t => (normalizeBody (room + 1) place body).result = .ok t) ?_ ?_ ?_ h
  · intro room place j t ht
    rw [normalizeBody]
    exact normalizeValue_succ_eq_ok ht
  · intro room place r
    rfl
  · intro room place bodies ts hts
    rw [normalizeBody, Logged.result_bind_eq_ok_iff]
    exact ⟨ts, Logged.result_forEach_eq_ok_iff.mpr hts, rfl⟩

theorem normalizeBody_eq_ok_of_le {room room' : Nat} (hle : room ≤ room') {place : Place}
    {body : Body} {t : Instruction} (h : (normalizeBody room place body).result = .ok t) :
    (normalizeBody room' place body).result = .ok t := by
  induction hle with
  | refl => exact h
  | step _ ih => exact normalizeBody_succ_eq_ok ih

/-- A body that can be read is read alike with any other room, or there is too little of it. -/
theorem normalizeBody_ok_or_tooDeep {room : Nat} {place : Place} {body : Body} {t : Instruction}
    (h : (normalizeBody room place body).result = .ok t) (room' : Nat) :
    (normalizeBody room' place body).result = .ok t ∨
      (normalizeBody room' place body).result = .error .tooDeep := by
  refine normalizeBody_induction
    (P := fun _ place body t => ∀ room', (normalizeBody room' place body).result = .ok t ∨
      (normalizeBody room' place body).result = .error .tooDeep) ?_ ?_ ?_ h room'
  · intro _ place j t ht room'
    cases room' with
    | zero => exact Or.inr rfl
    | succ room' => exact normalizeValue_ok_or_tooDeep ht (room' + 1)
  · intro _ place r room'
    cases room' with
    | zero => exact Or.inr rfl
    | succ room' => exact Or.inl rfl
  · intro _ place bodies ts hts room'
    cases room' with
    | zero => exact Or.inr rfl
    | succ room' =>
      have hrow := Logged.result_forEach_ok_or (hts.imp fun _ _ hread => hread room')
      rw [normalizeBody, Logged.result_bind]
      exact bind_ok_or hrow (Or.inl rfl)

theorem isStructural_of_normalizeBody {room : Nat} {place : Place} {body : Body} {e : Error}
    (h : (normalizeBody room place body).result = .error e) : e.isStructural = true := by
  induction room generalizing place body with
  | zero =>
    cases h
    rfl
  | succ room ih =>
    cases body with
    | written j =>
      rw [normalizeBody] at h
      exact isStructural_of_normalizeValue h
    | settled r => cases h
    | conjunction bodies =>
      rcases Logged.result_bind_eq_error_iff.mp h with h | ⟨ts, -, h⟩
      · obtain ⟨body, -, h⟩ := Logged.exists_of_result_forEach_eq_error h
        exact ih h
      · cases h

/-! ### Drafts -/

/-- A requirement that is handed in stays; any other one is the root of a tree that is read. -/
theorem normalize_eq_ok {d : Draft} {r : Requirement} (h : d.normalize.result = .ok r) :
    d.body = .settled r ∨
      ∃ t, (normalizeBody maxDepth .root d.body).result = .ok t ∧ .ofInstruction t = r := by
  obtain ⟨body, overrides⟩ := d
  cases body with
  | settled s => cases h; exact Or.inl rfl
  | written j =>
    obtain ⟨t, ht, h⟩ := Logged.result_bind_eq_ok_iff.mp h
    exact Or.inr ⟨t, ht, Except.ok.inj h⟩
  | conjunction bodies =>
    obtain ⟨t, ht, h⟩ := Logged.result_bind_eq_ok_iff.mp h
    exact Or.inr ⟨t, ht, Except.ok.inj h⟩

theorem isStructural_of_normalize {d : Draft} {e : Error}
    (h : d.normalize.result = .error e) : e.isStructural = true := by
  have hread : ∀ {body : Body}, ((normalizeBody maxDepth .root body) >>= fun root => do
      Logged.emit [.normalized root.countChecks]
      return Requirement.ofInstruction root : Logged Error Requirement).result = .error e →
        e.isStructural = true := by
    intro body h
    rcases Logged.result_bind_eq_error_iff.mp h with h | ⟨t, -, h⟩
    · exact isStructural_of_normalizeBody h
    · cases h
  obtain ⟨body, overrides⟩ := d
  cases body with
  | settled r => cases h
  | written j => exact hread h
  | conjunction bodies => exact hread h

end Proviso.Draft
