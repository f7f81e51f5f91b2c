/-
  Proviso/Proofs/Registry/Registrations.lean
  ==========================================
  **A registry after any row of registrations.**

  Two names are the same up to case if they agree character by character, where the two cases of an
  ASCII letter count as one; all other letters keep theirs.  The key of a name is what such names
  have in common (`key_eq_key_iff`).  One registration replaces what was found under the names of
  its key and nothing else, so after a row of them a name finds what was registered last under one
  of its spellings, and before that what the registry started with (`get?_registerAll_eq_some_iff`).
  The names that are listed are the keys of all names that were registered
  (`mem_names_registerAll`).
-/
import Mathlib.Data.List.Forall2
import Proviso.Proofs.Registry.Builtin

namespace Proviso.Registry

/-! ### Names up to case -/

/-- `b` is the lower case of the ASCII letter `a`. -/
def LowerCaseOf (a b : Char) : Prop := 'A'.toNat ≤ a.toNat ∧ a.toNat ≤ 'Z'.toNat ∧
  b.toNat = a.toNat + ('a'.toNat - 'A'.toNat)

/-- The same character, or the two cases of an ASCII letter. -/
def CaseVariant (a b : Char) : Prop := a = b ∨ LowerCaseOf a b ∨ LowerCaseOf b a

instance (a b : Char) : Decidable (LowerCaseOf a b) :=
  inferInstanceAs (Decidable (_ ∧ _ ∧ _))

instance : DecidableRel CaseVariant := fun _ _ => inferInstanceAs (Decidable (_ ∨ _ ∨ _))

/-- Two spellings of a name that differ in the case of ASCII letters at most. -/
def SameName (a b : String) : Prop := List.Forall₂ CaseVariant a.toList b.toList

instance (a b : String) : Decidable (SameName a b) :=
  inferInstanceAs (Decidable (List.Forall₂ CaseVariant a.toList b.toList))

theorem toNat_toLower (c : Char) : c.toLower.toNat =
    if 65 ≤ c.toNat ∧ c.toNat ≤ 90 then c.toNat + 32 else c.toNat := by
  have hrange : c.val ≥ 'A'.val ∧ c.val ≤ 'Z'.val ↔ 65 ≤ c.toNat ∧ c.toNat ≤ 90 := by
    rw [ge_iff_le, UInt32.le_iff_toNat_le, UInt32.le_iff_toNat_le]
    exact Iff.rfl
  by_cases h : 65 ≤ c.toNat ∧ c.toNat ≤ 90
  · have hlower : c.toLower = _ := dif_pos (hrange.mpr h)
    have hsmall : c.toNat + 32 < 2 ^ 32 := by omega
    rw [hlower, if_pos h]
    show (c.val + ('a'.val - 'A'.val)).toNat = c.toNat + 32
    rw [UInt32.toNat_add]
    exact Nat.mod_eq_of_lt hsmall
  · have hlower : c.toLower = c := dif_neg (mt hrange.mp h)
    rw [hlower, if_neg h]

theorem toLower_eq_toLower_iff {a b : Char} : a.toLower = b.toLower ↔ CaseVariant a b := by
  have hA : 'A'.toNat = 65 := rfl
  have hZ : 'Z'.toNat = 90 := rfl
  have ha : 'a'.toNat = 97 := rfl
  rw [CaseVariant, LowerCaseOf, LowerCaseOf, ← Char.toNat_inj, ← Char.toNat_inj, toNat_toLower,
    toNat_toLower, hA, hZ, ha]
  -- told by code points, of which the lower case adds 32 to both, to one or to none
  split <;> split <;> omega

/-- **The key of a name** is what it has in common with the names that are the same up to case. -/
theorem key_eq_key_iff {a b : String} : key a = key b ↔ SameName a b := by
  rw [key, key, ← String.toList_inj, String.toList_map, String.toList_map, SameName,
    ← List.forall₂_eq_eq_eq, List.forall₂_map_left_iff, List.forall₂_map_right_iff]
  simp only [toLower_eq_toLower_iff]

/-- Only ASCII letters have a second case. -/
example : SameName "ÉLAN" "Élan" ∧ ¬ SameName "ÉLAN" "élan" := by decide +kernel

/-! ### What is found -/

variable {r : Registry} {name : String} {check : Check} {calls : List (String × Check)}

/-- `check` was registered under one spelling of the name, and none under any after it. -/
def LastUnder (name : String) (check : Check) (calls : List (String × Check)) : Prop :=
  ∃ before written after, calls = before ++ (written, check) :: after ∧ SameName written name ∧
    ∀ c ∈ after, ¬ SameName c.1 name

theorem lastUnder_cons_iff {c : String × Check} {rest : List (String × Check)} :
    LastUnder name check (c :: rest) ↔ LastUnder name check rest ∨
      (∀ d ∈ rest, ¬ SameName d.1 name) ∧ SameName c.1 name ∧ c.2 = check := by
  constructor
  · rintro ⟨before, written, after, hcalls, hsame, hafter⟩
    cases before with
    | nil =>
      obtain ⟨rfl, rfl⟩ := List.cons.inj hcalls
      exact Or.inr ⟨hafter, hsame, rfl⟩
    | cons d before =>
      obtain ⟨rfl, rfl⟩ := List.cons.inj hcalls
      exact Or.inl ⟨before, written, after, rfl, hsame, hafter⟩
  · rintro (⟨before, written, after, rfl, hsame, hafter⟩ | ⟨hrest, hsame, rfl⟩)
    · exact ⟨c :: before, written, after, rfl, hsame, hafter⟩
    · exact ⟨[], c.1, rest, rfl, hsame, hrest⟩

/-- **After a row of registrations** a name finds what came last under one of its spellings, and
    what was there before if nothing did. -/
theorem get?_registerAll_eq_some_iff : (r.registerAll calls).get? name = some check ↔
    LastUnder name check calls ∨
      (∀ c ∈ calls, ¬ SameName c.1 name) ∧ r.get? name = some check := by
  induction calls generalizing r with
  | nil =>
    have hnone : ¬ LastUnder name check [] := by simp [LastUnder]
    simp [registerAll, hnone]
  | cons c rest ih =>
    show ((r.register c.1 c.2).registerAll rest).get? name = some check ↔ _
    rw [ih, get?_register, lastUnder_cons_iff, List.forall_mem_cons, ← key_eq_key_iff]
    by_cases hkey : key name = key c.1
    · simp [hkey]
    · have hkey' : ¬ key c.1 = key name := fun h => hkey h.symm
      simp [hkey, hkey']

theorem get?_registerAll_eq_none_iff : (r.registerAll calls).get? name = none ↔
    (∀ c ∈ calls, ¬ SameName c.1 name) ∧ r.get? name = none := by
  induction calls generalizing r with
  | nil => simp [registerAll]
  | cons c rest ih =>
    show ((r.register c.1 c.2).registerAll rest).get? name = none ↔ _
    rw [ih, get?_register, List.forall_mem_cons, ← key_eq_key_iff]
    by_cases hkey : key name = key c.1
    · simp [hkey]
    · have hkey' : ¬ key c.1 = key name := fun h => hkey h.symm
      simp [hkey, hkey']

/-! ### What is listed -/

theorem mem_names_iff : name ∈ r.names ↔ (r.entries.lookup name).isSome = true := by
  rw [names, List.mem_map, List.lookup_isSome_iff]
  exact exists_congr fun e => and_congr_right fun _ => eq_comm.trans beq_iff_eq.symm

theorem mem_names_register {added : String} :
    name ∈ (r.register added check).names ↔ key added = name ∨ name ∈ r.names := by
  rw [mem_names_iff, mem_names_iff, register, lookup_insertEntry]
  by_cases h : name = key added
  · simp [h]
  · have h' : ¬ key added = name := fun heq => h heq.symm
    simp [h, h']

theorem mem_names_registerAll : name ∈ (r.registerAll calls).names ↔
    (∃ c ∈ calls, key c.1 = name) ∨ name ∈ r.names := by
  induction calls generalizing r with
  | nil => simp [registerAll]
  | cons c rest ih =>
    show name ∈ ((r.register c.1 c.2).registerAll rest).names ↔ _
    rw [ih, mem_names_register]
    simp only [List.mem_cons, exists_eq_or_imp, or_assoc, or_left_comm]

/-! ### Registries as they start -/

/-- What a registry is made as, and the checks it has then, whatever engine searches for
    patterns. -/
inductive Starts : Registry → List (String × Check) → Prop where
  | empty : Starts .empty []
  | builtin {ε ρ : Type} (engine : Pattern.Engine ε ρ) :
    Starts (.builtinWith engine) (builtinChecks engine)

theorem get?_empty_ne_some : empty.get? name ≠ some check := nofun

/-- Where no two names are the same up to case, each finds its own check. -/
theorem lastUnder_iff_of_nodup (h : (calls.map fun c => key c.1).Nodup) :
    LastUnder name check calls ↔ ∃ written, (written, check) ∈ calls ∧ SameName written name := by
  constructor
  · rintro ⟨before, written, after, rfl, hsame, -⟩
    exact ⟨written, by simp, hsame⟩
  · rintro ⟨written, hmem, hsame⟩
    obtain ⟨before, after, rfl⟩ := List.append_of_mem hmem
    refine ⟨before, written, after, rfl, hsame, ?_⟩
    intro c hc hother
    rw [List.map_append, List.map_cons] at h
    have hnew := (List.nodup_cons.mp (List.nodup_append.mp h).2.1).1
    apply hnew
    rw [key_eq_key_iff.mpr hsame, ← key_eq_key_iff.mpr hother]
    exact List.mem_map_of_mem hc

variable {start : Registry} {own : List (String × Check)}

theorem Starts.eq_registerAll (h : Starts start own) :
    start = Registry.empty.registerAll own ∧ (own.map fun c => key c.1).Nodup := by
  cases h with
  | empty => exact ⟨rfl, List.nodup_nil⟩
  | builtin engine => exact ⟨rfl, nodup_key_builtinChecks⟩

theorem Starts.get?_eq_some_iff (h : Starts start own) : start.get? name = some check ↔
    ∃ written, (written, check) ∈ own ∧ SameName written name := by
  obtain ⟨rfl, hdistinct⟩ := h.eq_registerAll
  rw [get?_registerAll_eq_some_iff, lastUnder_iff_of_nodup hdistinct]
  exact or_iff_left fun hempty => get?_empty_ne_some hempty.2

/-- Each built-in check is found under its name. -/
theorem find_builtinWith {ε ρ : Type} {engine : Pattern.Engine ε ρ}
    (h : (name, check) ∈ builtinChecks engine) : (builtinWith engine).find name = .ok check := by
  have hname : SameName name name := key_eq_key_iff.mp rfl
  exact find_eq_ok_iff.mpr ((Starts.builtin engine).get?_eq_some_iff.mpr ⟨name, h, hname⟩)

theorem Starts.mem_names_iff (h : Starts start own) :
    name ∈ start.names ↔ ∃ c ∈ own, key c.1 = name := by
  obtain ⟨rfl, -⟩ := h.eq_registerAll
  rw [mem_names_registerAll]
  exact or_iff_left List.not_mem_nil

theorem Starts.get?_eq_none_iff (h : Starts start own) :
    start.get? name = none ↔ ∀ c ∈ own, ¬ SameName c.1 name := by
  obtain ⟨rfl, -⟩ := h.eq_registerAll
  rw [get?_registerAll_eq_none_iff]
  exact and_iff_left rfl

/-! ### All answers -/

/-- What a registry answers that started with `own` and was then given a row of registrations. -/
structure Answers (r : Registry) (own calls : List (String × Check)) : Prop where
  /-- The check found is the last registered under a spelling of the name, or else the one it
      started with. -/
  found : ∀ name check, r.find name = .ok check ↔ LastUnder name check calls ∨
    (∀ c ∈ calls, ¬ SameName c.1 name) ∧ ∃ written, (written, check) ∈ own ∧ SameName written name
  /-- Without one the error shows the name as asked for. -/
  unknown : ∀ name e, r.find name = .error e ↔
    (∀ c ∈ own ++ calls, ¬ SameName c.1 name) ∧ e = .unknownCheck name
  has_iff : ∀ name, r.has name = true ↔ ∃ check, r.find name = .ok check
  ascending : r.names.Pairwise fun a b => bytes a < bytes b
  /-- The names are those registered, in lower case. -/
  listed : ∀ name, name ∈ r.names ↔ ∃ c ∈ own ++ calls, key c.1 = name
  length_names : r.names.length = r.size

/-- **The answers of a registry** after any row of registrations. -/
theorem Starts.answers (h : Starts start own) (calls : List (String × Check)) :
    Answers (start.registerAll calls) own calls where
  found name check := by
    rw [find_eq_ok_iff, get?_registerAll_eq_some_iff, h.get?_eq_some_iff]
  unknown name e := by
    rw [find_eq_error_iff, get?_registerAll_eq_none_iff, h.get?_eq_none_iff,
      List.forall_mem_append, and_comm (a := ∀ c ∈ own, _)]
  has_iff name := has_iff
  ascending := List.pairwise_map.mpr (start.registerAll calls).ascending
  listed name := by
    rw [mem_names_registerAll, h.mem_names_iff]
    simp only [List.mem_append, or_and_right, exists_or, or_comm]
  length_names := List.length_map _

end Proviso.Registry
