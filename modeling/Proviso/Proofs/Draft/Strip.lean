/-
  Proviso/Proofs/Draft/Strip.lean
  ===============================
  **Keys that hold options say nothing to the reader.**

  They are no keywords, they do not belong to a single condition, and they are among the keys that
  never name a check.  So taking them out of a body changes nothing of how it is read, events
  included (`normalizeBody_strip`).  A merge takes them out of its drafts, and leaves out those
  that are absent (`mergedBodies_cons`).
-/
import Proviso.Draft.Extract
import Proviso.Draft.Normalize

namespace Proviso

/-- A key that holds no option is found with the same value after the options are taken out. -/
theorem lookup_filter_isOptionKey {key : String} (h : isOptionKey key = false)
    (members : List (String × Json)) :
    (members.filter fun m => !isOptionKey m.1).lookup key = members.lookup key := by
  induction members with
  | nil => rfl
  | cons m rest ih =>
    obtain ⟨name, j⟩ := m
    cases hname : isOptionKey name with
    | false => rw [List.filter_cons_of_pos (by simp [hname]), List.lookup_cons, List.lookup_cons, ih]
    | true =>
      have hne : (key == name) = false := by
        rw [beq_eq_false_iff_ne]
        intro heq
        rw [heq, hname] at h
        cases h
      rw [List.filter_cons_of_neg (by simp [hname]), ih, List.lookup_cons, hne]

theorem isOptionKey_keyword (key : Keyword) : isOptionKey key.text = false := by
  cases key <;> decide

namespace Draft

theorem mem_reservedKeys_of_isOptionKey {key : String} (h : isOptionKey key = true) :
    key ∈ reservedKeys := by
  rw [isOptionKey, List.any_eq_true] at h
  obtain ⟨option, hoption, heq⟩ := h
  rw [← beq_iff_eq.mp heq]
  exact List.mem_append_right _ (List.mem_map_of_mem hoption)

variable (members : List (String × Json))

theorem isShorthand_strip :
    isShorthand (members.filter fun m => !isOptionKey m.1) = isShorthand members := by
  rw [isShorthand, lookup_filter_isOptionKey (by decide), lookup_filter_isOptionKey (by decide),
    isShorthand]

theorem shorthand_strip :
    shorthand (members.filter fun m => !isOptionKey m.1) = shorthand members := by
  rw [shorthand, shorthandArgs, lookup_filter_isOptionKey (by decide),
    lookup_filter_isOptionKey (by decide), lookup_filter_isOptionKey (by decide), shorthand,
    shorthandArgs]

theorem itemsUnder_strip (key : Keyword) :
    itemsUnder key (members.filter fun m => !isOptionKey m.1) = itemsUnder key members := by
  rw [itemsUnder, lookup_filter_isOptionKey (isOptionKey_keyword key), itemsUnder]

theorem listed_strip :
    listed (members.filter fun m => !isOptionKey m.1) = listed members := by
  simp only [listed, itemsUnder_strip]

theorem implicitConditions_strip :
    implicitConditions (members.filter fun m => !isOptionKey m.1) =
      implicitConditions members := by
  rw [implicitConditions, implicitConditions, List.filter_filter]
  congr 1
  apply List.filter_congr
  intro m _
  cases h : isOptionKey m.1 with
  | false => simp
  | true => simp [mem_reservedKeys_of_isOptionKey h]

theorem normalizeValue_strip (room : Nat) (place : Place) :
    normalizeValue room place (.obj (members.filter fun m => !isOptionKey m.1)) =
      normalizeValue room place (.obj members) := by
  cases room with
  | zero => rfl
  | succ room =>
    simp only [normalizeValue, isShorthand_strip, shorthand_strip, listed_strip,
      implicitConditions_strip]

/-- **A body is read as if its options were not there.** -/
theorem normalizeBody_strip (room : Nat) (place : Place) (body : Body) :
    normalizeBody room place body.strip = normalizeBody room place body := by
  cases room with
  | zero => rfl
  | succ room =>
    cases body with
    | written j =>
      cases j with
      | obj members =>
        rw [Body.strip, normalizeBody, normalizeBody]
        exact normalizeValue_strip members (room + 1) place
      | _ => rfl
    | settled r => rfl
    | conjunction bodies => rfl

theorem normalize_strip (d : Draft) : d.strip.normalize = d.normalize := by
  obtain ⟨body, overrides⟩ := d
  cases body with
  | written j =>
    cases j with
    | obj members =>
      have hread := normalizeBody_strip maxDepth .root (.written (.obj members))
      rw [Body.strip] at hread
      simp only [normalize, strip, Body.strip, hread]
    | _ => rfl
  | settled r => rfl
  | conjunction bodies => rfl

end Draft

theorem Body.isAbsent_strip (body : Body) : body.strip.isAbsent = body.isAbsent := by
  cases body with
  | written j => cases j <;> rfl
  | settled r => rfl
  | conjunction bodies => rfl

/-! ### The bodies of a merge -/

namespace Draft

theorem mergedBodies_cons_of_isAbsent {d : Draft} (h : d.body.isAbsent = true)
    (rest : List Draft) : mergedBodies (d :: rest) = mergedBodies rest := by
  rw [mergedBodies, List.map_cons, List.filter_cons_of_neg (by simp [Body.isAbsent_strip, h]),
    mergedBodies]

theorem mergedBodies_cons {d : Draft} (h : d.body.isAbsent = false) (rest : List Draft) :
    mergedBodies (d :: rest) = d.body.strip :: mergedBodies rest := by
  rw [mergedBodies, List.map_cons, List.filter_cons_of_pos (by simp [Body.isAbsent_strip, h]),
    mergedBodies]

end Draft

end Proviso
