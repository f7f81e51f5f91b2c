/-
  Proviso/Proofs/Draft/Rewrapping.lean
  ====================================
  **A merge of one merge says the same.**

  Wrapped once more, a merge keeps its settings and takes one level more.  The group of the new
  level has one child, so it is left out below the root; at the root it takes over the children of
  that child, or stays around a child that is no `all` group, as it stood before
  (`flatten_wrapped`).  Hence each number of wraps reads the same row of bodies with less room
  (`result_normalizeBody_iterate_wrap`), and what a row is read as does not depend on the room as
  far as there is enough of it.
-/
import Mathlib.Data.Nat.Find
import Mathlib.Logic.Function.Iterate
import Proviso.Proofs.Draft.Regrouping

namespace Proviso

/-- A simplified group is what its children give also as the only child of another one. -/
theorem Instruction.flatten_wrapped (place : Place) (k : Connective) (cs : List Instruction) :
    (group k [(group k cs).flatten .nested]).flatten place = (group k cs).flatten place := by
  cases place with
  | nested => rfl
  | root =>
    rcases flatten_group .nested k cs with ⟨-, t, rfl, h⟩ | ⟨-, h⟩
    · rw [h]
    · have hjoined : joinedBy k (group k (dissolve k cs)) = true := by
        rw [joinedBy_group, decide_eq_true rfl]
      have hdissolve : dissolve k [group k (dissolve k cs)] = dissolve k cs := by
        rw [dissolve, List.filter_cons_of_neg (by simp [hjoined]),
          List.filter_cons_of_pos hjoined]
        simp [children]
      rw [h, flatten_root, flatten_root, hdissolve]

namespace Draft

/-- The merge of nothing but this draft. -/
def wrap (d : Draft) : Draft := merge [d]

theorem settings_wrap (d : Draft) : (wrap d).settings = d.settings := by
  rw [wrap, settings_merge, mergedSettings_cons]
  exact Settings.orElse_empty d.settings

theorem settings_iterate_wrap (d : Draft) (n : Nat) : (wrap^[n] d).settings = d.settings := by
  induction n with
  | zero => rfl
  | succ n ih => rw [Function.iterate_succ_apply', settings_wrap, ih]

variable {drafts : List Draft}

theorem body_iterate_wrap_succ (n : Nat) :
    (wrap^[n + 1] (merge drafts)).body = .conjunction [(wrap^[n] (merge drafts)).body] := by
  have hbody : ∃ bodies, (wrap^[n] (merge drafts)).body = .conjunction bodies := by
    cases n with
    | zero => exact ⟨_, rfl⟩
    | succ n => exact ⟨_, congrArg body (Function.iterate_succ_apply' wrap n _)⟩
  obtain ⟨bodies, hbodies⟩ := hbody
  have hpresent : (wrap^[n] (merge drafts)).body.isAbsent = false := by
    rw [hbodies]
    rfl
  rw [Function.iterate_succ_apply', wrap, merge, mergedBodies_cons hpresent, hbodies]
  rfl

/-- **Each wrap takes one level** and leaves the row of bodies that are merged as it is. -/
theorem result_normalizeBody_iterate_wrap {n room : Nat} (hroom : n ≤ room) (place : Place) :
    (normalizeBody (room + 1) place (wrap^[n] (merge drafts)).body).result =
      (Logged.forEach (normalizeBody (room - n) .nested) (mergedBodies drafts)).result.map fun ts =>
        (Instruction.group .all ts).flatten place := by
  induction n generalizing room place with
  | zero => exact result_normalizeBody_conjunction room place (mergedBodies drafts)
  | succ n ih =>
    cases room with
    | zero => exact absurd hroom (Nat.not_succ_le_zero n)
    | succ room =>
      rw [body_iterate_wrap_succ, result_normalizeBody_conjunction, Logged.forEach,
        Logged.result_bind, ih (Nat.le_of_succ_le_succ hroom), Nat.add_sub_add_right]
      cases (Logged.forEach (normalizeBody (room - n) .nested) (mergedBodies drafts)).result with
      | error e => rfl
      | ok ts => exact congrArg Except.ok (Instruction.flatten_wrapped place .all ts)

theorem result_normalizeBody_iterate_wrap_of_le {n room : Nat} (hroom : room ≤ n)
    (place : Place) :
    (normalizeBody room place (wrap^[n] (merge drafts)).body).result = .error .tooDeep := by
  induction n generalizing room place with
  | zero =>
    rw [Nat.le_zero.mp hroom]
    rfl
  | succ n ih =>
    cases room with
    | zero => rfl
    | succ room =>
      rw [body_iterate_wrap_succ, result_normalizeBody_conjunction, Logged.forEach,
        Logged.result_bind, ih (Nat.le_of_succ_le_succ hroom)]
      rfl

theorem result_normalize_iterate_wrap (n : Nat) :
    (wrap^[n] (merge drafts)).normalize.result =
      (normalizeBody maxDepth .root (wrap^[n] (merge drafts)).body).result.map
        Requirement.ofInstruction := by
  apply result_normalize
  intro r h
  cases n with
  | zero => cases h
  | succ n =>
    rw [body_iterate_wrap_succ] at h
    cases h

theorem result_normalize_iterate_wrap_of_lt {n : Nat} (hn : n < maxDepth) :
    (wrap^[n] (merge drafts)).normalize.result =
      (Logged.forEach (normalizeBody (maxDepth - 1 - n) .nested) (mergedBodies drafts)).result.map
        fun ts => ⟨.all, Instruction.dissolve .all ts⟩ := by
  have hroom : n ≤ maxDepth - 1 := Nat.le_sub_one_of_lt hn
  rw [result_normalize_iterate_wrap, show maxDepth = maxDepth - 1 + 1 from rfl,
    result_normalizeBody_iterate_wrap hroom]
  cases (Logged.forEach (normalizeBody (maxDepth - 1 - n) .nested) (mergedBodies drafts)).result <;>
    rfl

theorem result_normalize_iterate_wrap_of_le {n : Nat} (hn : maxDepth ≤ n) :
    (wrap^[n] (merge drafts)).normalize.result = .error .tooDeep := by
  rw [result_normalize_iterate_wrap, result_normalizeBody_iterate_wrap_of_le hn]
  rfl

/-! ### What more wraps can change -/

variable {r : Requirement}

/-- What can be read below some wraps is read alike below fewer of them. -/
theorem normalize_iterate_wrap_eq_ok_of_le {n m : Nat} (hle : n ≤ m)
    (h : (wrap^[m] (merge drafts)).normalize.result = .ok r) :
    (wrap^[n] (merge drafts)).normalize.result = .ok r := by
  have hm : m < maxDepth := by
    by_contra hm
    rw [result_normalize_iterate_wrap_of_le (Nat.le_of_not_lt hm)] at h
    cases h
  rw [result_normalize_iterate_wrap_of_lt hm] at h
  obtain ⟨ts, hts, rfl⟩ := map_eq_ok_iff.mp h
  have hroom : maxDepth - 1 - m ≤ maxDepth - 1 - n := Nat.sub_le_sub_left hle _
  have hrow := (Logged.result_forEach_eq_ok_iff.mp hts).imp fun _ _ =>
    normalizeBody_eq_ok_of_le hroom
  rw [result_normalize_iterate_wrap_of_lt (Nat.lt_of_le_of_lt hle hm),
    Logged.result_forEach_eq_ok_iff.mpr hrow]
  rfl

theorem normalize_iterate_wrap_ok_or_tooDeep (h : (merge drafts).normalize.result = .ok r)
    (n : Nat) : (wrap^[n] (merge drafts)).normalize.result = .ok r ∨
      (wrap^[n] (merge drafts)).normalize.result = .error .tooDeep := by
  obtain ⟨ts, hts, rfl⟩ := normalize_merge_eq_ok_iff.mp h
  rcases Nat.lt_or_ge n maxDepth with hn | hn
  · rw [result_normalize_iterate_wrap_of_lt hn]
    rcases Logged.result_forEach_ok_or (hts.imp fun _ _ hread =>
      normalizeBody_ok_or_tooDeep hread (maxDepth - 1 - n)) with hrow | hrow
    · rw [hrow]
      exact Or.inl rfl
    · rw [hrow]
      exact Or.inr rfl
  · exact Or.inr (result_normalize_iterate_wrap_of_le hn)

/-- **Rewrapping a merge is idempotent.**  If a merge can be read, then any number of merges around
    it leaves its settings as they are, and there are less than `maxDepth` spare levels: as many
    merges can stand around it, and the requirement is the same down to the order of the children;
    with any more of them the instruction is too deep. -/
theorem normalize_iterate_wrap (h : (merge drafts).normalize.result = .ok r) :
    (∀ n, (wrap^[n] (merge drafts)).extract.1 = (merge drafts).extract.1) ∧
      ∃ spare < maxDepth, ∀ n, (wrap^[n] (merge drafts)).normalize.result =
        if n ≤ spare then .ok r else .error .tooDeep := by
  refine ⟨settings_iterate_wrap (merge drafts), ?_⟩
  have hmax : (wrap^[maxDepth] (merge drafts)).normalize.result ≠ .ok r := by
    rw [result_normalize_iterate_wrap_of_le (Nat.le_refl maxDepth)]
    nofun
  have hends : ∃ n, (wrap^[n] (merge drafts)).normalize.result ≠ .ok r := ⟨maxDepth, hmax⟩
  classical
  -- all numbers of wraps below the first that is too large are spare
  obtain ⟨spare, hspare⟩ : ∃ spare, Nat.find hends = spare + 1 := by
    refine Nat.exists_eq_add_one.mpr (Nat.pos_of_ne_zero fun hzero => ?_)
    exact Nat.find_spec hends (hzero ▸ h)
  have htooMany : (wrap^[spare + 1] (merge drafts)).normalize.result ≠ .ok r :=
    hspare ▸ Nat.find_spec hends
  refine ⟨spare, ?_, fun n => ?_⟩
  · rw [← Nat.succ_le_iff, Nat.succ_eq_add_one, ← hspare]
    exact Nat.find_min' hends hmax
  · by_cases hn : n ≤ spare
    · rw [if_pos hn]
      have hlt : n < Nat.find hends := by omega
      exact not_not.mp (Nat.find_min hends hlt)
    · rw [if_neg hn]
      rcases normalize_iterate_wrap_ok_or_tooDeep h n with hread | hread
      · exact absurd (normalize_iterate_wrap_eq_ok_of_le (by omega) hread) htooMany
      · exact hread

/-- A document with an option and a tree built by hand, of which one keeps its own group at the
    root. -/
def layered : Draft :=
  merge [ofJson (.obj [("any", .arr [.str "isString", .arr []]), ("debug", .bool true)]),
    ofRequirement ⟨.any, [.group .all [.check ⟨"empty", [], true⟩, .group .all []]]⟩]

def layeredRequirement : Requirement := ⟨.all,
  [.group .any [.check ⟨"isString", [], false⟩, .group .all []], .check ⟨"empty", [], true⟩,
    .group .all []]⟩

theorem normalize_iterate_wrap_layered :
    (merge [layered]).normalize.result = .ok layeredRequirement ∧
      (∀ n, (wrap^[n] (merge [layered])).extract.1.debug = some true) ∧
      ∃ spare < maxDepth, ∀ n, (wrap^[n] (merge [layered])).normalize.result =
        if n ≤ spare then .ok layeredRequirement else .error .tooDeep := by
  have hread : (merge [layered]).normalize.result = .ok layeredRequirement := rfl
  obtain ⟨hsettings, hspare⟩ := normalize_iterate_wrap hread
  refine ⟨hread, fun n => ?_, hspare⟩
  rw [hsettings n]
  rfl

end Draft

end Proviso
