/-
  Proviso/Proofs/Instruction/Negation.lean
  ========================================
  **Names with negations in front.**

  A negation is `!`, `not` or `non`, and none of the three begins another.  So there is one way only
  to take a text apart into negations and a rest that begins with none (`text_injective`,
  `exists_text_eq`), although a rest may look like more of them, as in `nonot`.  Reading a name
  finds that way: the rest is the name of the check, and the condition is turned once for each
  negation (`ofWritten_text`).

  One more negation in front of a text turns the condition that the text names into its opposite,
  whatever the text is, and with it the verdict.
-/
import Mathlib.Logic.Function.Iterate
import Proviso.Draft.Normalize
import Proviso.Proofs.Instruction.Dual

namespace Proviso

/-- A negation in front of a name. -/
inductive Negation where
  | mark | not | non
  deriving DecidableEq, Repr

namespace Negation

def chars : Negation → List Char
  | .mark => ['!']
  | .not => ['n', 'o', 't']
  | .non => ['n', 'o', 'n']

def text (n : Negation) : String := String.ofList n.chars

/-- No negation is the beginning of another. -/
theorem chars_append_inj {n m : Negation} {a b : List Char} (h : n.chars ++ a = m.chars ++ b) :
    n = m ∧ a = b := by
  cases n <;> cases m <;> simp_all [chars]

/-- The text begins with no negation. -/
def Free (cs : List Char) : Prop := ∀ n : Negation, ¬ n.chars <+: cs

theorem not_free_append (n : Negation) (rest : List Char) : ¬ Free (n.chars ++ rest) :=
  fun h => h n (List.prefix_append n.chars rest)

/-! ### Taking negations off -/

theorem stripNegations_append (n : Negation) (rest : List Char) (negate : Bool) :
    stripNegations (n.chars ++ rest) negate = stripNegations rest !negate := by
  cases n <;> exact stripNegations.eq_def _ _

theorem stripNegations_of_free {cs : List Char} (h : Free cs) (negate : Bool) :
    stripNegations cs negate = (cs, negate) := by
  fun_cases stripNegations cs negate with
  | case1 rest => exact absurd h (not_free_append .mark rest)
  | case2 rest => exact absurd h (not_free_append .not rest)
  | case3 rest => exact absurd h (not_free_append .non rest)
  | case4 => rfl

theorem free_of_forall_ne {cs : List Char} (hmark : ∀ rest, cs ≠ '!' :: rest)
    (hnot : ∀ rest, cs ≠ 'n' :: 'o' :: 't' :: rest)
    (hnon : ∀ rest, cs ≠ 'n' :: 'o' :: 'n' :: rest) : Free cs := by
  rintro n ⟨rest, hrest⟩
  cases n with
  | mark => exact hmark rest hrest.symm
  | not => exact hnot rest hrest.symm
  | non => exact hnon rest hrest.symm

/-! ### Taking a text apart -/

theorem flatMap_append_inj {ns ms : List Negation} {a b : List Char} (ha : Free a) (hb : Free b)
    (h : ns.flatMap chars ++ a = ms.flatMap chars ++ b) : ns = ms ∧ a = b := by
  induction ns generalizing ms with
  | nil =>
    cases ms with
    | nil => exact ⟨rfl, h⟩
    | cons m ms =>
      rw [List.flatMap_nil, List.nil_append, List.flatMap_cons, List.append_assoc] at h
      exact absurd (h ▸ ha) (not_free_append m _)
  | cons n ns ih =>
    cases ms with
    | nil =>
      rw [List.flatMap_nil, List.nil_append, List.flatMap_cons, List.append_assoc] at h
      exact absurd (h ▸ hb) (not_free_append n _)
    | cons m ms =>
      rw [List.flatMap_cons, List.append_assoc, List.flatMap_cons, List.append_assoc] at h
      obtain ⟨rfl, hrest⟩ := chars_append_inj h
      obtain ⟨rfl, hab⟩ := ih hrest
      exact ⟨rfl, hab⟩

theorem exists_flatMap_append (cs : List Char) (negate : Bool) :
    ∃ (ns : List Negation) (a : List Char), Free a ∧ ns.flatMap chars ++ a = cs := by
  fun_induction stripNegations cs negate with
  | case1 negate rest ih =>
    obtain ⟨ns, a, ha, rfl⟩ := ih
    exact ⟨.mark :: ns, a, ha, rfl⟩
  | case2 negate rest ih =>
    obtain ⟨ns, a, ha, rfl⟩ := ih
    exact ⟨.not :: ns, a, ha, rfl⟩
  | case3 negate rest ih =>
    obtain ⟨ns, a, ha, rfl⟩ := ih
    exact ⟨.non :: ns, a, ha, rfl⟩
  | case4 cs negate hmark hnot hnon => exact ⟨[], cs, free_of_forall_ne hmark hnot hnon, rfl⟩

theorem stripNegations_flatMap_append {a : List Char} (ha : Free a) (ns : List Negation)
    (negate : Bool) :
    stripNegations (ns.flatMap chars ++ a) negate = (a, Bool.not^[ns.length] negate) := by
  induction ns generalizing negate with
  | nil => exact stripNegations_of_free ha negate
  | cons n ns ih =>
    rw [List.flatMap_cons, List.append_assoc, stripNegations_append, ih, List.length_cons,
      Function.iterate_succ_apply]

end Negation

/-- Negations, and a name that begins with none. -/
structure NegatedName where
  negations : List Negation
  bare : String
  free : Negation.Free bare.toList

namespace NegatedName

open Negation

def text (w : NegatedName) : String :=
  w.negations.foldr (fun n rest => n.text ++ rest) w.bare

theorem toList_text (w : NegatedName) :
    w.text.toList = w.negations.flatMap chars ++ w.bare.toList := by
  rw [text]
  induction w.negations with
  | nil => rfl
  | cons n rest ih =>
    rw [List.foldr_cons, String.toList_append, ih, Negation.text, String.toList_ofList,
      List.flatMap_cons, List.append_assoc]

/-- **There is one way to take a text apart.** -/
theorem text_injective {v w : NegatedName} (h : v.text = w.text) : v = w := by
  have hchars := congrArg String.toList h
  rw [toList_text, toList_text] at hchars
  obtain ⟨hnegations, hbare⟩ := flatMap_append_inj v.free w.free hchars
  cases v
  cases w
  simp_all [String.toList_inj]

theorem exists_text_eq (s : String) : ∃ w : NegatedName, w.text = s := by
  obtain ⟨ns, a, ha, hs⟩ := exists_flatMap_append s.toList false
  have hbare : (String.ofList a).toList = a := String.toList_ofList
  refine ⟨⟨ns, String.ofList a, hbare.symm ▸ ha⟩, ?_⟩
  rw [← String.toList_inj, toList_text]
  exact (congrArg (ns.flatMap chars ++ ·) hbare).trans hs

end NegatedName

theorem readArguments_of_forall_ne {args : List Json} (h : ∀ b, args ≠ [.bool b]) (negate : Bool) :
    readArguments args negate = (args, negate) := by
  rw [readArguments]
  exact h

namespace Condition

/-- Reading a name takes off its negations and turns the condition once for each. -/
theorem ofWritten_text (w : NegatedName) (args : List Json) (negate : Bool) :
    Condition.ofWritten w.text args negate =
      ⟨w.bare, (readArguments args negate).1,
        Bool.not^[w.negations.length] (readArguments args negate).2⟩ := by
  rw [ofWritten, w.toList_text]
  simp only [Negation.stripNegations_flatMap_append w.free, String.ofList_toList]

theorem ofWritten_of_free {s : String} (h : Negation.Free s.toList) (args : List Json)
    (negate : Bool) : Condition.ofWritten s args negate =
      ⟨s, (readArguments args negate).1, (readArguments args negate).2⟩ :=
  ofWritten_text ⟨[], s, h⟩ args negate

/-- One more negation in front turns the condition that any text names into its opposite. -/
theorem ofWritten_append (n : Negation) (s : String) (args : List Json) (negate : Bool) :
    Condition.ofWritten (n.text ++ s) args negate =
      (Condition.ofWritten s args negate).opposite := by
  have hchars : (n.text ++ s).toList = n.chars ++ s.toList := by
    rw [String.toList_append, Negation.text, String.toList_ofList]
  rw [ofWritten, ofWritten, hchars]
  simp only [Negation.stripNegations_append, stripNegations_not]
  rfl

end Condition

/-! ### Requirements of one condition -/

namespace Requirement

variable {registry : Registry} {value : Json}

def single (c : Condition) : Requirement := ⟨.all, [.check c]⟩

theorem result_evaluate_single (c : Condition) :
    ((single c).evaluate registry value).result = (c.evaluate registry value).result :=
  Logged.result_untilOther_singleton _ _ _

theorem result_evaluate_single_opposite (c : Condition) :
    ((single c.opposite).evaluate registry value).result =
      ((single c).evaluate registry value).opposite.result := by
  rw [result_evaluate_single, Condition.evaluate_opposite, Logged.opposite, Logged.opposite,
    result_evaluate_single]

end Requirement

theorem Draft.result_normalize_ofName (s : String) :
    (ofName s).normalize.result = .ok (.single (Condition.ofWritten s [] false)) := rfl

/-- **Negations are taken off in one way, and each turns the verdict.**  A text is a row of
    negations and a name that begins with none, in one way only; read as a condition it is that
    name, turned once for each negation, where a single boolean argument says what there is to turn
    and is no argument.  As an instruction on its own it gets the opposite verdict, or the same
    error, with any negation in front. -/
theorem NegatedName.reads_uniquely :
    (∀ s : String, ∃! w : NegatedName, w.text = s) ∧
    (∀ (w : NegatedName) (asserted negate : Bool),
      Condition.ofParts (some w.text) [.bool asserted] negate =
        .ok ⟨w.bare, [], Bool.not^[w.negations.length] !asserted⟩) ∧
    (∀ (w : NegatedName) (args : List Json) (negate : Bool),
      (∀ asserted, args ≠ [.bool asserted]) →
        Condition.ofParts (some w.text) args negate =
          .ok ⟨w.bare, args, Bool.not^[w.negations.length] negate⟩) ∧
    ∀ (n : Negation) (s : String) (registry : Registry) (value : Json), ∃ r r',
      (Draft.ofName s).normalize.result = .ok r ∧
      (Draft.ofName (n.text ++ s)).normalize.result = .ok r' ∧
      (∀ b, (r'.evaluate registry value).result = .ok (!b) ↔
        (r.evaluate registry value).result = .ok b) ∧
      ∀ e, (r'.evaluate registry value).result = .error e ↔
        (r.evaluate registry value).result = .error e := by
  refine ⟨?_, ?_, ?_, ?_⟩
  · intro s
    obtain ⟨w, hw⟩ := exists_text_eq s
    exact ⟨w, hw, fun v hv => text_injective (hv.trans hw.symm)⟩
  · intro w asserted negate
    rw [Condition.ofParts, Condition.ofWritten_text]
    rfl
  · intro w args negate hargs
    rw [Condition.ofParts, Condition.ofWritten_text, readArguments_of_forall_ne hargs]
  · intro n s registry value
    refine ⟨_, _, Draft.result_normalize_ofName s, Draft.result_normalize_ofName (n.text ++ s),
      ?_, ?_⟩
    · intro b
      rw [Condition.ofWritten_append, Requirement.result_evaluate_single_opposite,
        Logged.result_opposite_eq_ok_iff]
    · intro e
      rw [Condition.ofWritten_append, Requirement.result_evaluate_single_opposite,
        Logged.result_opposite_eq_error_iff]

/-- Three negations that run into each other, and a name that looks like half of one. -/
def NegatedName.crowded : NegatedName where
  negations := [.non, .not, .mark]
  bare := "noEmpty"
  free := by rintro (_ | _ | _) <;> decide

theorem NegatedName.reads_uniquely_crowded :
    crowded.text = "nonnot!noEmpty" ∧
    (∀ asserted, [Json.str "x", .bool true] ≠ [.bool asserted]) ∧
    Condition.ofParts (some "nonnot!noEmpty") [.str "x", .bool true] false =
      .ok ⟨"noEmpty", [.str "x", .bool true], true⟩ := by
  have htext : crowded.text = "nonnot!noEmpty" := by decide
  have hargs : ∀ asserted, [Json.str "x", .bool true] ≠ [.bool asserted] := by simp
  obtain ⟨-, -, hread, -⟩ := reads_uniquely
  exact ⟨htext, hargs, htext ▸ hread crowded _ false hargs⟩

end Proviso
