/-
  Proviso/Proofs/Instruction/Unambiguous.lean
  ===========================================
  **A description tells the verdict.**

  If the text of every check is one word and no group is empty, a tree is described by a sentence
  that says what the tree says, once it is settled what the words say (`exists_sentence`).  The
  tree itself cannot be read back: the sentence does not show a group of one alternative, nor
  whether two joint expectations make up the root or its only child.  But a sentence
  is determined by its text, and so trees with the same description have the same verdict wherever
  checks with the same text do.
-/
import Proviso.Proofs.Instruction.Flat
import Proviso.Proofs.Instruction.Nodes
import Proviso.Proofs.Instruction.Phrase
import Proviso.Proofs.Registry.Lookup

namespace Proviso

variable {registry : Registry} {value : Json} {σ : Assignment} {v : String → Bool}

/-- What each check of a registry expects is told in one word. -/
def Registry.Laconic (registry : Registry) : Prop :=
  ∀ name check, registry.get? name = some check → ∀ negate args, Plain (check.wording negate args)

/-- No group of a tree is empty. -/
def Instruction.Filled (t : Instruction) : Prop := t.Everywhere fun _ cs => cs ≠ []

/-! ### What words say -/

namespace Condition

theorem describe_eq_ok_iff {c : Condition} {text : String} : c.describe registry = .ok text ↔
    ∃ check, registry.get? c.name = some check ∧ check.wording c.negate c.args = text := by
  rw [describe, Registry.find]
  cases registry.get? c.name with
  | none => simp [bind, Except.bind]
  | some check => simp [bind, Except.bind, pure, Except.pure]

theorem result_evaluate_of_describe {c : Condition} {text : String}
    (h : c.describe registry = .ok text) (value : Json) :
    (c.evaluate registry value).result = .ok (c.holds registry.assignment value) := by
  obtain ⟨check, hcheck, -⟩ := describe_eq_ok_iff.mp h
  rw [result_evaluate, Registry.find_eq_ok_iff.mpr hcheck, holds, Registry.assignment, hcheck]
  rfl

/-- If conditions with the same text hold alike, then there is a way to tell from their texts which
    of them hold. -/
theorem exists_forall_holds_eq {cs : List Condition}
    (h : ∀ c ∈ cs, ∀ d ∈ cs, ∀ text, c.describe registry = .ok text →
      d.describe registry = .ok text → c.holds σ value = d.holds σ value) :
    ∃ v : String → Bool, ∀ c ∈ cs, ∀ text, c.describe registry = .ok text →
      v text = c.holds σ value := by
  classical
  refine ⟨fun text => decide (∃ c ∈ cs, c.describe registry = .ok text ∧
    c.holds σ value = true), ?_⟩
  intro c hc text htext
  rw [Bool.eq_iff_iff, decide_eq_true_eq]
  constructor
  · rintro ⟨d, hd, hdtext, hholds⟩
    rw [h c hc d hd text htext hdtext, hholds]
  · intro hholds
    exact ⟨c, hc, htext, hholds⟩

end Condition

/-! ### What descriptions say -/

namespace Instruction

variable (registry σ value v) in
/-- Each condition of a tree holds iff `v` says so of its text. -/
def ToldBy (t : Instruction) : Prop :=
  ∀ c ∈ t.conditions, ∀ text, c.describe registry = .ok text → v text = c.holds σ value

theorem ToldBy.of_mem {k : Connective} {cs : List Instruction} {t : Instruction}
    (h : (group k cs).ToldBy registry value σ v) (ht : t ∈ cs) : t.ToldBy registry value σ v := by
  intro c hc
  exact h c (mem_conditions_group.mpr ⟨t, ht, hc⟩)

variable (registry value σ v) in
/-- With this much room a tree is described by a phrase that says what the tree says. -/
def ReadsBelow (room : Nat) (t : Instruction) : Prop :=
  ∀ text, t.describeWithin registry room .nested = .ok text →
    ∃ p : Phrase, p.text = text ∧ p.holds v = t.holds σ value

theorem exists_phrases {room : Nat} {cs : List Instruction} {parts : List String}
    (hcs : ∀ t ∈ cs, t.ReadsBelow registry value σ v room)
    (h : cs.mapM (describeWithin registry room .nested) = .ok parts) :
    ∃ ps : List Phrase, ps.map Phrase.text = parts ∧
      ps.map (Phrase.holds v) = cs.map (holds σ value) := by
  rw [mapM_eq_ok_iff] at h
  induction h with
  | nil => exact ⟨[], rfl, rfl⟩
  | cons htext _ ih =>
    rw [List.forall_mem_cons] at hcs
    obtain ⟨p, rfl, hp⟩ := hcs.1 _ htext
    obtain ⟨ps, rfl, hps⟩ := ih hcs.2
    exact ⟨p :: ps, rfl, by rw [List.map_cons, List.map_cons, hp, hps]⟩

/-- A group that is not empty is described by a row of phrases that is not empty. -/
theorem exists_row {room : Nat} {place : Place} {k : Connective} {cs : List Instruction}
    {text : String} (hne : cs ≠ []) (hcs : ∀ t ∈ cs, t.ReadsBelow registry value σ v room)
    (h : (group k cs).describeWithin registry (room + 1) place = .ok text) :
    ∃ first rest, k.join place ((first :: rest).map Phrase.text) = text ∧
      k.verdict ((first :: rest).map (Phrase.holds v)) = (group k cs).holds σ value := by
  obtain ⟨parts, hparts, h⟩ := bind_eq_ok_iff.mp h
  cases h
  obtain ⟨ps, rfl, hholds⟩ := exists_phrases hcs hparts
  cases ps with
  | nil =>
    rw [List.map_nil, eq_comm, List.map_eq_nil_iff] at hholds
    exact absurd hholds hne
  | cons first rest => exact ⟨first, rest, rfl, by rw [hholds, holds_group]⟩

/-- **Below the root a description is a phrase.** -/
theorem readsBelow (hregistry : registry.Laconic) (room : Nat) {t : Instruction}
    (hfilled : t.Filled) (hv : t.ToldBy registry value σ v) :
    t.ReadsBelow registry value σ v room := by
  intro text h
  induction t generalizing room text with
  | check c =>
    cases room with
    | zero => cases h
    | succ room =>
      obtain ⟨check, hcheck, rfl⟩ := Condition.describe_eq_ok_iff.mp h
      refine ⟨.word _ (hregistry c.name check hcheck c.negate c.args), rfl, ?_⟩
      exact hv c List.mem_cons_self _ h
  | group k cs ih =>
    cases room with
    | zero => cases h
    | succ room =>
      rw [Filled, everywhere_group] at hfilled
      have hcs : ∀ t ∈ cs, t.ReadsBelow registry value σ v room := by
        intro t ht text
        exact ih t ht room (hfilled.2 t ht) (hv.of_mem ht) text
      obtain ⟨first, rest, rfl, hholds⟩ := exists_row hfilled.1 hcs h
      refine ⟨.ofGroup k first rest, Phrase.text_ofGroup k first rest, ?_⟩
      rw [Phrase.holds_ofGroup, hholds]

/-- **At the root a description is a sentence.** -/
theorem exists_sentence (hregistry : registry.Laconic) {room : Nat} {k : Connective}
    {cs : List Instruction} {text : String} (hfilled : (group k cs).Filled)
    (hv : (group k cs).ToldBy registry value σ v)
    (h : (group k cs).describeWithin registry room .root = .ok text) :
    ∃ p ps, sentence p ps = text ∧ Connective.any.verdict ((p :: ps).map (Phrase.holds v)) =
      (group k cs).holds σ value := by
  cases room with
  | zero => cases h
  | succ room =>
    rw [Filled, everywhere_group] at hfilled
    have hcs : ∀ t ∈ cs, t.ReadsBelow registry value σ v room := fun t ht =>
      readsBelow hregistry room (hfilled.2 t ht) (hv.of_mem ht)
    obtain ⟨first, rest, rfl, hholds⟩ := exists_row hfilled.1 hcs h
    obtain ⟨p, ps, htext, hverdict⟩ := exists_sentence_eq_join k first rest
    exact ⟨p, ps, htext, (hverdict v).trans hholds⟩

end Instruction

namespace Requirement

/-- **A description tells the verdict**: if what every check expects is told in one word, then two
    trees without empty groups that are described alike have the same verdict on every value on
    which conditions described alike have the same verdict. -/
theorem evaluate_eq_of_describe_eq (hregistry : registry.Laconic) {t u : Requirement}
    (htfilled : t.root.Filled) (hufilled : u.root.Filled) {text : String}
    (ht : t.describe registry = .ok text) (hu : u.describe registry = .ok text)
    (halike : ∀ c ∈ t.root.conditions ++ u.root.conditions,
      ∀ d ∈ t.root.conditions ++ u.root.conditions, c.describe registry = d.describe registry →
        (c.evaluate registry value).result = (d.evaluate registry value).result) :
    ∃ verdict, (t.evaluate registry value).result = .ok verdict ∧
      (u.evaluate registry value).result = .ok verdict := by
  have hσ := registry.assignment_agreesWith
  obtain ⟨v, hv⟩ : ∃ v : String → Bool, ∀ c ∈ t.root.conditions ++ u.root.conditions,
      ∀ text, c.describe registry = .ok text → v text = c.holds registry.assignment value := by
    apply Condition.exists_forall_holds_eq
    intro c hc d hd text hctext hdtext
    have hsame := halike c hc d hd (hctext.trans hdtext.symm)
    rw [Condition.result_evaluate_of_describe hctext,
      Condition.result_evaluate_of_describe hdtext] at hsame
    exact Except.ok.inj hsame
  rw [List.forall_mem_append] at hv
  obtain ⟨p, ps, hp, htholds⟩ := Instruction.exists_sentence hregistry htfilled hv.1 ht
  obtain ⟨q, qs, hq, huholds⟩ := Instruction.exists_sentence hregistry hufilled hv.2 hu
  obtain ⟨rfl, rfl⟩ := sentence_inj (hp.trans hq.symm)
  have hholds : t.holds registry.assignment value = u.holds registry.assignment value :=
    htholds.symm.trans huholds
  obtain ⟨a, ha⟩ := (exists_describe_eq_ok_iff.mp ⟨text, ht⟩).exists_verdict value
  obtain ⟨b, hb⟩ := (exists_describe_eq_ok_iff.mp ⟨text, hu⟩).exists_verdict value
  rw [holds_of_evaluate hσ ha, holds_of_evaluate hσ hb] at hholds
  exact ⟨b, hholds ▸ ha, hb⟩

/-- A check that is told in one word, and so is its opposite. -/
def oneWord (passes : Json → Bool) (text opposite : String) : Check where
  passes value _ := passes value
  wording negate _ := if negate then opposite else text

/-- Two checks with the same texts, and one with other texts. -/
def terse : Registry := .registerAll .empty
  [("brief", oneWord (fun value => value.size?.any (· ≤ 3)) "short" "long"),
    ("tiny", oneWord (fun value => value.size?.any (· ≤ 1)) "short" "long"),
    ("list", oneWord (fun value => value.kind == .array) "list" "scalar")]

theorem laconic_terse : terse.Laconic := by
  apply Registry.forall_get?_registerAll
  · intro name check h
    cases h
  · simp [oneWord, Plain, isBreak]

def briefOrList : Requirement :=
  ⟨.all, [.group .any [.check ⟨"brief", [], false⟩, .check ⟨"list", [], false⟩]]⟩

def tinyOrList : Requirement :=
  ⟨.any, [.group .any [.group .any [.check ⟨"tiny", [], false⟩], .check ⟨"list", [], false⟩]]⟩

theorem evaluate_eq_of_describe_eq_terse :
    terse.Laconic ∧ briefOrList.root.Filled ∧ tinyOrList.root.Filled ∧
    briefOrList.describe terse = .ok "(short or list)" ∧
    tinyOrList.describe terse = .ok "(short or list)" ∧
    ∃ verdict, (briefOrList.evaluate terse (.str "a")).result = .ok verdict ∧
      (tinyOrList.evaluate terse (.str "a")).result = .ok verdict := by
  have hbrief : briefOrList.root.Filled := by
    simp [Instruction.Filled, root, briefOrList, Instruction.everywhere_group,
      Instruction.everywhere_check]
  have htiny : tinyOrList.root.Filled := by
    simp [Instruction.Filled, root, tinyOrList, Instruction.everywhere_group,
      Instruction.everywhere_check]
  have hbrieftext : briefOrList.describe terse = .ok "(short or list)" := by
    with_unfolding_all rfl
  have htinytext : tinyOrList.describe terse = .ok "(short or list)" := by
    with_unfolding_all rfl
  have hshort : ∀ c ∈ briefOrList.root.conditions ++ tinyOrList.root.conditions,
      ∃ text, c.describe terse = .ok text ∧
        (c.evaluate terse (.str "a")).result = .ok (text == "short") := by
    intro c hc
    have hc : c = ⟨"brief", [], false⟩ ∨ c = ⟨"list", [], false⟩ ∨ c = ⟨"tiny", [], false⟩ ∨
        c = ⟨"list", [], false⟩ := by
      simpa [root, briefOrList, tinyOrList, Instruction.conditions, Instruction.conditionsOf]
        using hc
    rcases hc with rfl | rfl | rfl | rfl <;>
      exact ⟨_, by with_unfolding_all rfl, by with_unfolding_all rfl⟩
  refine ⟨laconic_terse, hbrief, htiny, hbrieftext, htinytext, ?_⟩
  apply evaluate_eq_of_describe_eq laconic_terse hbrief htiny hbrieftext htinytext
  intro c hc d hd hsame
  obtain ⟨text, hctext, hc⟩ := hshort c hc
  obtain ⟨text', hdtext, hd⟩ := hshort d hd
  rw [hctext, hdtext, Except.ok.injEq] at hsame
  rw [hc, hd, hsame]

end Requirement

end Proviso
