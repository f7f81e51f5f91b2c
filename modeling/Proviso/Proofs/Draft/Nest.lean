/-
  Proviso/Proofs/Draft/Nest.lean
  ==============================
  **Merges of merges, and the documents that say the same.**

  A nest is a draft, or a merge of nests, so it tells how a draft was put together.  If all drafts
  in a nest are documents, then the nest is one as well: each merge becomes an object that lists
  its parts under `and`, where parts that are `null` are left out.

  A merge is read on a path of its own, without keywords and without a look at any key.  It takes
  the same levels as the object, though, reads its parts in the same order and simplifies the same
  group, so both give the same tree or the same error (`normalize_toDraft_eq`).
-/
import Proviso.Proofs.Draft.Reading
import Proviso.Proofs.Draft.Strip

namespace Proviso

/-- Drafts, and merges of them nested to any level. -/
inductive Nest where
  | draft (d : Draft)
  | merge (parts : List Nest)

namespace Nest

@[elab_as_elim, induction_eliminator]
theorem induction {motive : Nest → Prop} (draft : ∀ d, motive (.draft d))
    (merge : ∀ parts, (∀ n ∈ parts, motive n) → motive (.merge parts)) : ∀ n, motive n
  | .draft d => draft d
  | .merge parts => merge parts fun n _ => induction draft merge n

mutual

/-- The draft that a nest builds. -/
def toDraft : Nest → Draft
  | .draft d => d
  | .merge parts => Draft.merge (toDrafts parts)

def toDrafts : List Nest → List Draft
  | [] => []
  | n :: rest => n.toDraft :: toDrafts rest

end

mutual

/-- The drafts in a nest, from left to right. -/
def drafts : Nest → List Draft
  | .draft d => [d]
  | .merge parts => draftsOf parts

def draftsOf : List Nest → List Draft
  | [] => []
  | n :: rest => n.drafts ++ draftsOf rest

end

theorem draftsOf_eq_flatMap (parts : List Nest) : draftsOf parts = parts.flatMap drafts := by
  induction parts with
  | nil => rfl
  | cons n rest ih => rw [draftsOf, ih, List.flatMap_cons]

/-- The drafts of a merge are those of its parts. -/
theorem mem_drafts_merge {parts : List Nest} {d : Draft} :
    d ∈ (merge parts).drafts ↔ ∃ n ∈ parts, d ∈ n.drafts := by
  rw [drafts, draftsOf_eq_flatMap, List.mem_flatMap]

end Nest

/-! ### Merges as documents -/

namespace Nest

mutual

/-- The document that says the same, if all drafts are documents. -/
def toJson? : Nest → Option Json
  | .draft d => d.json?
  | .merge parts => (toJsons? parts).map fun js =>
      .obj [(Keyword.and.text, .arr (js.filter fun j => !j.isNull))]

def toJsons? : List Nest → Option (List Json)
  | [] => some []
  | n :: rest => do return (← n.toJson?) :: (← toJsons? rest)

end

theorem toJsons?_eq_some_iff {parts : List Nest} {js : List Json} :
    toJsons? parts = some js ↔ List.Forall₂ (fun n j => n.toJson? = some j) parts js := by
  induction parts generalizing js with
  | nil => rw [toJsons?, List.forall₂_nil_left_iff]; simp [eq_comm]
  | cons n rest ih =>
    rw [toJsons?, List.forall₂_cons_left_iff]
    simp only [Option.bind_eq_bind, Option.bind_eq_some_iff, ih, Option.pure_def,
      Option.some.injEq]
    constructor
    · rintro ⟨j, hj, js', hjs', rfl⟩
      exact ⟨j, js', hj, hjs', rfl⟩
    · rintro ⟨j, js', hj, hjs', rfl⟩
      exact ⟨j, hj, js', hjs', rfl⟩

theorem exists_toJsons?_eq_some {parts : List Nest} (h : ∀ n ∈ parts, ∃ j, n.toJson? = some j) :
    ∃ js, toJsons? parts = some js := by
  induction parts with
  | nil => exact ⟨[], rfl⟩
  | cons n rest ih =>
    rw [List.forall_mem_cons] at h
    obtain ⟨j, hj⟩ := h.1
    obtain ⟨js, hjs⟩ := ih h.2
    exact ⟨j :: js, by rw [toJsons?, hj, hjs]; rfl⟩

theorem exists_toJson?_eq_some {n : Nest} (h : ∀ d ∈ n.drafts, ∃ j, d.body = .written j) :
    ∃ j, n.toJson? = some j := by
  induction n with
  | draft d =>
    obtain ⟨j, hj⟩ := h d (List.mem_singleton_self d)
    exact ⟨j, by rw [toJson?, Draft.json?, hj]⟩
  | merge parts ih =>
    have hparts : ∀ n ∈ parts, ∃ j, n.toJson? = some j := by
      intro n hn
      apply ih n hn
      intro d hd
      exact h d (mem_drafts_merge.mpr ⟨n, hn, hd⟩)
    obtain ⟨js, hjs⟩ := exists_toJsons?_eq_some hparts
    exact ⟨_, by rw [toJson?, hjs]; rfl⟩

end Nest

namespace Draft

theorem result_normalizeBody_written (room : Nat) (place : Place) (j : Json) :
    (normalizeBody room place (.written j)).result = (normalizeValue room place j).result := by
  cases room with
  | zero => rfl
  | succ room => rfl

theorem result_normalizeBody_conjunction (room : Nat) (place : Place) (bodies : List Body) :
    (normalizeBody (room + 1) place (.conjunction bodies)).result =
      (Logged.forEach (normalizeBody room .nested) bodies).result.map fun ts =>
        (Instruction.group .all ts).flatten place := by
  rw [normalizeBody, Logged.result_bind]
  rfl

theorem result_normalizeValue_and (room : Nat) (place : Place) (items : List Json) :
    (normalizeValue (room + 1) place (.obj [(Keyword.and.text, .arr items)])).result =
      (Logged.forEach (normalizeValue room .nested) items).result.map fun ts =>
        (Instruction.group .all ts).flatten place := by
  rw [result_normalizeValue_object rfl]
  show (Logged.forEach (normalizeValue room .nested) items).result >>= _ = _
  cases (Logged.forEach (normalizeValue room .nested) items).result with
  | error e => rfl
  | ok ts =>
    show Except.ok ((combine (ts ++ []) []).flatten place) = _
    rw [List.append_nil, combine_nil]
    rfl

theorem result_normalize {d : Draft} (h : ∀ r, d.body ≠ .settled r) :
    d.normalize.result = (normalizeBody maxDepth .root d.body).result.map .ofInstruction := by
  obtain ⟨body, overrides⟩ := d
  cases body with
  | settled r => exact absurd rfl (h r)
  | _ =>
    refine (Logged.result_bind _ _).trans ?_
    rfl

end Draft

/-! ### Reading merges as documents -/

namespace Nest

/-- A draft and a document are read alike, wherever they stand. -/
def ReadAlike (d : Draft) (j : Json) : Prop :=
  d.body.isAbsent = j.isNull ∧ ∀ room place,
    (Draft.normalizeBody room place d.body.strip).result =
      (Draft.normalizeValue room place j).result

theorem mergedBodies_alike {ds : List Draft} {js : List Json} (h : List.Forall₂ ReadAlike ds js)
    (room : Nat) :
    List.Forall₂ (fun body j => (Draft.normalizeBody room .nested body).result =
      (Draft.normalizeValue room .nested j).result)
      (Draft.mergedBodies ds) (js.filter fun j => !j.isNull) := by
  induction h with
  | nil => exact .nil
  | @cons d j _ _ hd _ ih =>
    obtain ⟨habsent, hread⟩ := hd
    cases hnull : j.isNull with
    | true =>
      rw [Draft.mergedBodies_cons_of_isAbsent (habsent.trans hnull),
        List.filter_cons_of_neg (by simp [hnull])]
      exact ih
    | false =>
      rw [Draft.mergedBodies_cons (habsent.trans hnull), List.filter_cons_of_pos (by simp [hnull])]
      exact .cons (hread room .nested) ih

theorem forall₂_readAlike {parts : List Nest} {js : List Json}
    (hparts : ∀ n ∈ parts, ∀ j, n.toJson? = some j → ReadAlike n.toDraft j)
    (h : List.Forall₂ (fun n j => n.toJson? = some j) parts js) :
    List.Forall₂ ReadAlike (toDrafts parts) js := by
  induction h with
  | nil => exact .nil
  | cons hn _ ih =>
    rw [List.forall_mem_cons] at hparts
    exact .cons (hparts.1 _ hn) (ih hparts.2)

theorem readAlike_toDraft {n : Nest} {j : Json} (h : n.toJson? = some j) :
    ReadAlike n.toDraft j := by
  induction n generalizing j with
  | draft d =>
    obtain ⟨body, overrides⟩ := d
    cases body with
    | written i =>
      cases h
      refine ⟨rfl, ?_⟩
      intro room place
      rw [toDraft, Draft.normalizeBody_strip, Draft.result_normalizeBody_written]
    | settled r => cases h
    | conjunction bodies => cases h
  | merge parts ih =>
    obtain ⟨js, hjs, rfl⟩ := Option.map_eq_some_iff.mp h
    rw [toJsons?_eq_some_iff] at hjs
    have hrow : List.Forall₂ ReadAlike (toDrafts parts) js :=
      forall₂_readAlike (fun n hn j => ih n hn) hjs
    refine ⟨rfl, ?_⟩
    intro room place
    cases room with
    | zero => rfl
    | succ room =>
      -- both open one level and read the same row on it
      have hbodies := Logged.result_forEach_congr (mergedBodies_alike hrow room)
      rw [Draft.result_normalizeValue_and, ← hbodies]
      exact Draft.result_normalizeBody_conjunction room place _

/-- **A merge of documents is read like the document that lists them under `and`**, whatever is
    merged with what: both give the same tree, or both fail with the same error. -/
theorem normalize_toDraft_eq {n : Nest} (h : ∀ d ∈ n.drafts, ∃ j, d.body = .written j) :
    ∃ j, n.toJson? = some j ∧ n.toDraft.normalize.result = (Draft.ofJson j).normalize.result := by
  obtain ⟨j, hj⟩ := exists_toJson?_eq_some h
  refine ⟨j, hj, ?_⟩
  obtain ⟨-, hread⟩ := readAlike_toDraft hj
  have hbody : ∀ r, n.toDraft.body ≠ .settled r := by
    intro r hr
    cases n with
    | draft d =>
      obtain ⟨i, hi⟩ := h d (List.mem_singleton_self d)
      cases hi.symm.trans hr
    | merge parts => cases hr
  have hwritten : ∀ r, (Draft.ofJson j).body ≠ .settled r := by
    intro r hr
    cases hr
  rw [Draft.result_normalize hbody, Draft.result_normalize hwritten, ← Draft.normalizeBody_strip,
    hread]
  exact congrArg _ (Draft.result_normalizeBody_written maxDepth .root j).symm

/-- Documents with options, a draft that is absent, and merges of several sizes. -/
def sampleNest : Nest := .merge [
  .draft (.ofJson (.obj [("debug", .bool true), ("isString", .bool true)])), .draft .absent,
  .merge [.draft ((Draft.ofName "!empty").throwOnFailure false), .merge [],
    .merge [.draft (.ofJson (.arr [.null, .str "isArray"]))]]]

def sampleNestJson : Json := .obj [("and", .arr [
  .obj [("debug", .bool true), ("isString", .bool true)],
  .obj [("and", .arr [.str "!empty", .obj [("and", .arr [])],
    .obj [("and", .arr [.arr [.null, .str "isArray"]])]])]])]

theorem normalize_toDraft_eq_sampleNest :
    (∀ d ∈ sampleNest.drafts, ∃ j, d.body = .written j) ∧
      sampleNest.toJson? = some sampleNestJson ∧
      sampleNest.toDraft.normalize.result = (Draft.ofJson sampleNestJson).normalize.result := by
  have hwritten : ∀ d ∈ sampleNest.drafts, ∃ j, d.body = .written j := by
    simp [sampleNest, drafts, draftsOf, Draft.ofJson, Draft.ofName, Draft.absent,
      Draft.throwOnFailure, Draft.mapOverrides]
  have hjson : sampleNest.toJson? = some sampleNestJson := rfl
  obtain ⟨j, hj, hread⟩ := normalize_toDraft_eq hwritten
  cases hj.symm.trans hjson
  exact ⟨hwritten, hjson, hread⟩

end Nest

end Proviso
