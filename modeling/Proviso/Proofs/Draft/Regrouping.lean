/-
  Proviso/Proofs/Draft/Regrouping.lean
  ====================================
  **Regrouping a merge is harmless.**

  Merges of merges, nested to any level, are compared with one merge of the same drafts in the same
  order.  The settings are the same, each option being that of the first draft that specifies it,
  because filling what is left open is associative (`settings_toDraft`).

  The trees differ in the order of the children.  What a row of bodies contributes to the group
  above it (`Yields`) is told up to that order, and a merge that is left out for its only child
  contributes the same as one that is dissolved.  So each merge contributes what its drafts
  contribute, by induction over the nest (`yields_drafts`).  The single merge needs fewer levels,
  therefore it can be read whenever the merges of merges can.
-/
import Proviso.Proofs.Draft.Nest
import Proviso.Proofs.Instruction.Tree

namespace Proviso

namespace Draft

/-! ### Merged settings -/

theorem foldl_settings (s : Settings) (drafts : List Draft) :
    drafts.foldl (fun s d => s.orElse d.settings) s = s.orElse (mergedSettings drafts) := by
  induction drafts generalizing s with
  | nil => exact (Settings.orElse_empty s).symm
  | cons d rest ih =>
    rw [mergedSettings, List.foldl_cons, List.foldl_cons, ih, ih, Settings.empty_orElse,
      Settings.orElse_assoc]

theorem mergedSettings_cons (d : Draft) (rest : List Draft) :
    mergedSettings (d :: rest) = d.settings.orElse (mergedSettings rest) := by
  rw [mergedSettings, List.foldl_cons, foldl_settings, Settings.empty_orElse]

theorem mergedSettings_append (ds es : List Draft) :
    mergedSettings (ds ++ es) = (mergedSettings ds).orElse (mergedSettings es) := by
  rw [mergedSettings, List.foldl_append, foldl_settings]
  rfl

theorem settings_merge (drafts : List Draft) : (merge drafts).settings = mergedSettings drafts :=
  Settings.orElse_empty _

/-- An option of merged settings is that of the first draft that specifies it. -/
theorem mergedSettings_findSome? {α : Type} {option : Settings → Option α}
    (empty : option {} = none)
    (orElse : ∀ s later, option (s.orElse later) = (option s).or (option later))
    (drafts : List Draft) :
    option (mergedSettings drafts) = drafts.findSome? fun d => option d.settings := by
  induction drafts with
  | nil => exact empty
  | cons d rest ih =>
    rw [mergedSettings_cons, orElse, ih, List.findSome?_cons]
    cases option d.settings <;> rfl

end Draft

/-- Each option is that of the first draft that specifies it, and open if none does. -/
structure Settings.FirstOf (s : Settings) (drafts : List Draft) : Prop where
  throwOnFailure : s.throwOnFailure = drafts.findSome? (·.settings.throwOnFailure)
  allowAbsent : s.allowAbsent = drafts.findSome? (·.settings.allowAbsent)
  default : s.default = drafts.findSome? (·.settings.default)
  returnFullResult : s.returnFullResult = drafts.findSome? (·.settings.returnFullResult)
  debug : s.debug = drafts.findSome? (·.settings.debug)

namespace Draft

theorem firstOf_mergedSettings (drafts : List Draft) :
    (mergedSettings drafts).FirstOf drafts where
  throwOnFailure := mergedSettings_findSome? rfl (fun _ _ => rfl) drafts
  allowAbsent := mergedSettings_findSome? rfl (fun _ _ => rfl) drafts
  default := mergedSettings_findSome? rfl (fun _ _ => rfl) drafts
  returnFullResult := mergedSettings_findSome? rfl (fun _ _ => rfl) drafts
  debug := mergedSettings_findSome? rfl (fun _ _ => rfl) drafts

/-! ### What a row of bodies contributes -/

/-- Bodies that are read below the root contribute `cs`, up to the order, to an `all` group. -/
def Yields (room : Nat) (bodies : List Body) (cs : List Instruction) : Prop :=
  ∃ ts, List.Forall₂ (fun body t => (normalizeBody room .nested body).result = .ok t) bodies ts ∧
    cs.Perm (ts.flatMap (Instruction.operands .all))

variable {room : Nat} {bodies : List Body} {cs : List Instruction}

theorem Yields.perm {ds : List Instruction} (h : Yields room bodies ds) (hperm : cs.Perm ds) :
    Yields room bodies cs := by
  obtain ⟨ts, hread, hts⟩ := h
  exact ⟨ts, hread, hperm.trans hts⟩

theorem yields_singleton {body : Body} {t : Instruction}
    (h : (normalizeBody room .nested body).result = .ok t) :
    Yields room [body] (t.operands .all) := by
  refine ⟨[t], .cons h .nil, ?_⟩
  rw [List.flatMap_singleton]

theorem Yields.append {bodies' : List Body} {ds : List Instruction} (h : Yields room bodies cs)
    (h' : Yields room bodies' ds) : Yields room (bodies ++ bodies') (cs ++ ds) := by
  obtain ⟨ts, hread, hts⟩ := h
  obtain ⟨us, hread', hus⟩ := h'
  refine ⟨ts ++ us, List.rel_append hread hread', ?_⟩
  rw [List.flatMap_append]
  exact hts.append hus

theorem yields_cons {body : Body} (h : Yields room (body :: bodies) cs) :
    ∃ t ds, (normalizeBody room .nested body).result = .ok t ∧ Yields room bodies ds ∧
      cs.Perm (t.operands .all ++ ds) := by
  obtain ⟨ts, hread, hperm⟩ := h
  obtain ⟨t, us, ht, hus, rfl⟩ := List.forall₂_cons_left_iff.mp hread
  rw [List.flatMap_cons] at hperm
  exact ⟨t, _, ht, ⟨us, hus, .refl _⟩, hperm⟩

theorem Yields.succ (h : Yields room bodies cs) : Yields (room + 1) bodies cs := by
  obtain ⟨ts, hread, hperm⟩ := h
  exact ⟨ts, hread.imp fun _ _ => normalizeBody_succ_eq_ok, hperm⟩

/-- A conjunction contributes what its bodies contribute, wherever it stands. -/
theorem yields_of_normalizeBody_conjunction {place : Place} {t : Instruction}
    (h : (normalizeBody (room + 1) place (.conjunction bodies)).result = .ok t) :
    Yields room bodies (t.operands .all) := by
  obtain ⟨ts, hts, h⟩ := Logged.result_bind_eq_ok_iff.mp h
  cases h
  have hread := Logged.result_forEach_eq_ok_iff.mp hts
  exact ⟨ts, hread, Instruction.operands_flatten_perm place .all ts⟩

/-- One level of reading a merge: the drafts that are not absent become the children of the root,
    or are dissolved into it. -/
theorem normalize_merge_eq_ok_iff {drafts : List Draft} {r : Requirement} :
    (merge drafts).normalize.result = .ok r ↔
      ∃ ts, List.Forall₂ (fun body t => (normalizeBody (maxDepth - 1) .nested body).result = .ok t)
        (mergedBodies drafts) ts ∧ ⟨.all, Instruction.dissolve .all ts⟩ = r := by
  have hsettled : ∀ r, (merge drafts).body ≠ .settled r := nofun
  have hbody : (normalizeBody maxDepth .root (merge drafts).body).result =
      (Logged.forEach (normalizeBody (maxDepth - 1) .nested) (mergedBodies drafts)).result.map
        fun ts => (Instruction.group .all ts).flatten .root :=
    result_normalizeBody_conjunction (maxDepth - 1) .root (mergedBodies drafts)
  rw [result_normalize hsettled, hbody]
  simp only [← Logged.result_forEach_eq_ok_iff]
  cases (Logged.forEach (normalizeBody (maxDepth - 1) .nested) (mergedBodies drafts)).result with
  | error e => simp [Except.map]
  | ok ts => simp [Except.map, Requirement.ofInstruction]

theorem yields_of_normalize_merge {drafts : List Draft} {r : Requirement}
    (h : (merge drafts).normalize.result = .ok r) :
    r.connective = .all ∧ Yields (maxDepth - 1) (mergedBodies drafts) r.children := by
  obtain ⟨ts, hts, rfl⟩ := normalize_merge_eq_ok_iff.mp h
  exact ⟨rfl, ts, hts, Instruction.dissolve_perm .all ts⟩

theorem exists_normalize_merge {drafts : List Draft}
    (h : Yields (maxDepth - 1) (mergedBodies drafts) cs) :
    ∃ r, (merge drafts).normalize.result = .ok r ∧ r.connective = .all ∧ cs.Perm r.children := by
  obtain ⟨ts, hts, hperm⟩ := h
  refine ⟨⟨.all, Instruction.dissolve .all ts⟩, ?_, rfl, ?_⟩
  · exact normalize_merge_eq_ok_iff.mpr ⟨ts, hts, rfl⟩
  · exact hperm.trans (Instruction.dissolve_perm .all ts).symm

theorem mergedBodies_append (ds es : List Draft) :
    mergedBodies (ds ++ es) = mergedBodies ds ++ mergedBodies es := by
  rw [mergedBodies, List.map_append, List.filter_append, mergedBodies, mergedBodies]

end Draft

/-! ### Merges of merges -/

namespace Nest

open Draft

/-- **The settings of merges of merges** are those of the drafts, merged in their order. -/
theorem settings_toDraft (n : Nest) : n.toDraft.settings = mergedSettings n.drafts := by
  induction n with
  | draft d => rfl
  | merge parts ih =>
    rw [toDraft, settings_merge, drafts]
    induction parts with
    | nil => rfl
    | cons n rest ihrest =>
      rw [List.forall_mem_cons] at ih
      rw [toDrafts, mergedSettings_cons, ih.1, ihrest ih.2, draftsOf, mergedSettings_append]

/-- Only an absent draft is absent; a merge is not, even if it is empty. -/
theorem mergedBodies_drafts_of_isAbsent {n : Nest} (h : n.toDraft.body.isAbsent = true) :
    mergedBodies n.drafts = [] := by
  cases n with
  | draft d => exact mergedBodies_cons_of_isAbsent h []
  | merge parts => cases h

/-- A row of nests contributes what their drafts contribute, if each of the nests does. -/
theorem yields_draftsOf {room : Nat} {parts : List Nest} {cs : List Instruction}
    (hparts : ∀ n ∈ parts, ∀ t, n.toDraft.body.isAbsent = false →
      (normalizeBody room .nested n.toDraft.body.strip).result = .ok t →
        Yields room (mergedBodies n.drafts) (t.operands .all))
    (h : Yields room (mergedBodies (toDrafts parts)) cs) :
    Yields room (mergedBodies (draftsOf parts)) cs := by
  induction parts generalizing cs with
  | nil => exact h
  | cons n rest ih =>
    rw [List.forall_mem_cons] at hparts
    rw [toDrafts] at h
    rw [draftsOf, mergedBodies_append]
    cases habsent : n.toDraft.body.isAbsent with
    | true =>
      rw [mergedBodies_cons_of_isAbsent habsent] at h
      rw [mergedBodies_drafts_of_isAbsent habsent, List.nil_append]
      exact ih hparts.2 h
    | false =>
      rw [mergedBodies_cons habsent] at h
      obtain ⟨t, ds, ht, hds, hperm⟩ := yields_cons h
      have hn := hparts.1 t habsent ht
      have hrest := ih hparts.2 hds
      exact (hn.append hrest).perm hperm

/-- **A nest contributes what its drafts contribute**, up to the order. -/
theorem yields_drafts {n : Nest} {room : Nat} {t : Instruction}
    (habsent : n.toDraft.body.isAbsent = false)
    (h : (normalizeBody room .nested n.toDraft.body.strip).result = .ok t) :
    Yields room (mergedBodies n.drafts) (t.operands .all) := by
  induction n generalizing room t with
  | draft d =>
    have hbodies : mergedBodies (draft d).drafts = [d.body.strip] := mergedBodies_cons habsent []
    rw [hbodies]
    exact yields_singleton h
  | merge parts ih =>
    cases room with
    | zero => cases h
    | succ room =>
      have hyields : Yields room (mergedBodies (toDrafts parts)) (t.operands .all) :=
        yields_of_normalizeBody_conjunction h
      -- the drafts are read one level higher than in the merge
      exact (yields_draftsOf (fun n hn t => ih n hn) hyields).succ

/-- **Regrouping a merge is harmless.**  Merges of merges have the settings of one merge of the same
    drafts, each option being that of the first draft that specifies it.  If they can be read, so
    can the single merge; both roots are `all` groups, and they have the same children up to their
    order. -/
theorem normalize_toDraft_perm (parts : List Nest) :
    (merge parts).toDraft.extract.1 = (Draft.merge (draftsOf parts)).extract.1 ∧
      (Draft.merge (draftsOf parts)).extract.1.FirstOf (draftsOf parts) ∧
      ∀ r, (merge parts).toDraft.normalize.result = .ok r →
        ∃ r', (Draft.merge (draftsOf parts)).normalize.result = .ok r' ∧
          r.connective = .all ∧ r'.connective = .all ∧ r.children.Perm r'.children := by
  have hflat : (Draft.merge (draftsOf parts)).extract.1 = mergedSettings (draftsOf parts) :=
    settings_merge (draftsOf parts)
  have hnest : (merge parts).toDraft.extract.1 = mergedSettings (draftsOf parts) :=
    settings_toDraft (merge parts)
  refine ⟨hnest.trans hflat.symm, ?_, ?_⟩
  · rw [hflat]
    exact firstOf_mergedSettings (draftsOf parts)
  · intro r h
    obtain ⟨hall, hyields⟩ := yields_of_normalize_merge h
    have hdrafts : Yields (maxDepth - 1) (mergedBodies (draftsOf parts)) r.children :=
      yields_draftsOf (fun n _ t => yields_drafts) hyields
    obtain ⟨r', h', hall', hperm⟩ := exists_normalize_merge hdrafts
    exact ⟨r', h', hall, hall', hperm⟩

/-- Merges of several sizes, with options that are specified twice, and a tree built by hand. -/
def mixedParts : List Nest :=
  [.merge [.merge [], .draft .absent, .draft ((Draft.ofJson (.obj [("isArray", .bool true),
      ("return_full_result", .bool false)])).debug true)],
    .draft (.ofName "isString"),
    .merge [.draft (.ofRequirement ⟨.all, [.group .all [.group .all []],
        .check ⟨"empty", [], true⟩]⟩),
      .merge [.draft ((Draft.ofName "!empty").returnFullResult true), .draft (.ofJson .null)]]]

def nestedRequirement : Requirement := ⟨.all, [.check ⟨"isString", [], false⟩,
  .check ⟨"isArray", [], false⟩, .check ⟨"empty", [], true⟩, .check ⟨"empty", [], true⟩,
  .group .all []]⟩

def singleRequirement : Requirement := ⟨.all, [.check ⟨"isArray", [], false⟩,
  .check ⟨"isString", [], false⟩, .check ⟨"empty", [], true⟩, .check ⟨"empty", [], true⟩,
  .group .all []]⟩

theorem normalize_toDraft_perm_mixedParts :
    (merge mixedParts).toDraft.normalize.result = .ok nestedRequirement ∧
      (Draft.merge (draftsOf mixedParts)).normalize.result = .ok singleRequirement ∧
      nestedRequirement.children.Perm singleRequirement.children ∧
      (merge mixedParts).toDraft.extract.1.returnFullResult = some false ∧
      (merge mixedParts).toDraft.extract.1.debug = some true := by
  have hnested : (merge mixedParts).toDraft.normalize.result = .ok nestedRequirement := rfl
  have hsingle : (Draft.merge (draftsOf mixedParts)).normalize.result = .ok singleRequirement := rfl
  obtain ⟨hsettings, hfirst, hread⟩ := normalize_toDraft_perm mixedParts
  obtain ⟨r', h, -, -, hperm⟩ := hread _ hnested
  cases h.symm.trans hsingle
  refine ⟨hnested, hsingle, hperm, ?_, ?_⟩
  · rw [hsettings, hfirst.returnFullResult]
    rfl
  · rw [hsettings, hfirst.debug]
    rfl

end Nest

end Proviso
