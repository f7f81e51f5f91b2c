/-
  Proviso/Proofs/Report/Invocations.lean
  ======================================
  **A check is run at most once, and only while it can matter.**

  An evaluation runs the check of a condition where it comes to it, and a group comes to its
  children from left to right, up to the first that decides it.  So the conditions whose checks
  are run are some of those in the tree, in their order and none of them twice
  (`invocations_sublist_conditions`).  Reading an instruction, wording a failure and handing out
  a result run no checks.  A validation therefore runs those of the one evaluation it makes; what
  a computed default does comes on top.
-/
import Mathlib.Data.List.Flatten
import Proviso.Check.Probe
import Proviso.Proofs.Logged.Invocations
import Proviso.Proofs.Report.Finding
import Proviso.Provider

namespace Proviso

variable {registry : Registry} {value : Json}

/-! ### Conditions -/

namespace Condition

theorem events_evaluate_of_has_eq_false {c : Condition} (h : registry.has c.name = false) :
    (c.evaluate registry value).events = [] := by
  have hget : registry.get? c.name = none := by
    rw [Registry.has, Option.isSome_eq_false_iff] at h
    exact Option.isNone_iff_eq_none.mp h
  rw [evaluate, Registry.find, hget]
  rfl

theorem events_evaluate {c : Condition} {check : Check}
    (h : registry.get? c.name = some check) :
    (c.evaluate registry value).events = (check.remarks value c.args).map .remarked ++
      [.evaluated c (check.passes value c.args != c.negate)] := by
  rw [evaluate_of_find (Registry.find_eq_ok_iff.mpr h)]

theorem invocations_evaluate (c : Condition) : (c.evaluate registry value).invocations =
    if registry.has c.name then [c] else [] := by
  cases hget : registry.get? c.name with
  | none =>
    have hhas : registry.has c.name = false := by rw [Registry.has, hget]; rfl
    rw [Logged.invocations, events_evaluate_of_has_eq_false hhas, hhas]
    rfl
  | some check =>
    have hhas : registry.has c.name = true := by rw [Registry.has, hget]; rfl
    have hremarks : ((check.remarks value c.args).map Event.remarked).filterMap
        Event.condition? = [] := by
      rw [List.filterMap_map, List.filterMap_eq_nil_iff]
      intro remark _
      rfl
    rw [Logged.invocations, events_evaluate hget, List.filterMap_append, hremarks, hhas]
    rfl

end Condition

/-! ### Trees -/

namespace Instruction

theorem invocations_evaluateWithin_of_forall {room : Nat} {k : Connective}
    {cs : List Instruction}
    (h : ∀ t ∈ cs, (t.evaluateWithin registry value room).result = .ok k.neutral) :
    ((group k cs).evaluateWithin registry value (room + 1)).invocations =
      cs.flatMap fun t => (t.evaluateWithin registry value room).invocations := by
  rw [evaluateWithin, Logged.invocations, Logged.events_untilOther_of_forall h,
    List.filterMap_flatMap]
  rfl

theorem invocations_evaluateWithin_of_stop {room : Nat} {k : Connective}
    {front rest : List Instruction} {t : Instruction}
    (hfront : ∀ u ∈ front, (u.evaluateWithin registry value room).result = .ok k.neutral)
    (ht : (t.evaluateWithin registry value room).result ≠ .ok k.neutral) :
    ((group k (front ++ t :: rest)).evaluateWithin registry value (room + 1)).invocations =
      (front.flatMap fun u => (u.evaluateWithin registry value room).invocations) ++
        (t.evaluateWithin registry value room).invocations := by
  rw [evaluateWithin, Logged.invocations, Logged.events_untilOther_of_stop hfront ht,
    List.filterMap_append, List.filterMap_flatMap]
  rfl

theorem exists_front_events_evaluateWithin (registry : Registry) (value : Json) (room : Nat)
    (k : Connective) (cs : List Instruction) : ∃ front rest, cs = front ++ rest ∧
      ((group k cs).evaluateWithin registry value (room + 1)).events =
        front.flatMap fun t => (t.evaluateWithin registry value room).events := by
  rw [evaluateWithin]
  exact Logged.exists_front_events_untilOther k.neutral _ cs

/-- **No condition is run twice**, and none before one that stands to its left. -/
theorem invocations_sublist_conditions (room : Nat) (t : Instruction) :
    (t.evaluateWithin registry value room).invocations.Sublist t.conditions := by
  induction t generalizing room with
  | check c =>
    cases room with
    | zero => exact List.nil_sublist _
    | succ room =>
      rw [evaluateWithin, Condition.invocations_evaluate, conditions]
      split
      · exact List.Sublist.refl _
      · exact List.nil_sublist _
  | group k cs ih =>
    cases room with
    | zero => exact List.nil_sublist _
    | succ room =>
      obtain ⟨front, rest, rfl, hevents⟩ :=
        exists_front_events_evaluateWithin registry value room k cs
      rw [Logged.invocations, hevents, List.filterMap_flatMap, conditions_group,
        conditionsOf_eq_flatMap]
      refine List.Sublist.trans (List.Sublist.flatMap_right front ?_)
        ((List.sublist_append_left front rest).flatMap conditions)
      intro t ht
      exact ih t (List.mem_append_left rest ht) room

/-- The log of an evaluation is made of the logs of its invocations, one after the other. -/
theorem events_evaluateWithin (room : Nat) (t : Instruction) :
    (t.evaluateWithin registry value room).events =
      (t.evaluateWithin registry value room).invocations.flatMap
        fun c => (c.evaluate registry value).events := by
  induction t generalizing room with
  | check c =>
    cases room with
    | zero => rfl
    | succ room =>
      rw [evaluateWithin, Condition.invocations_evaluate]
      cases hhas : registry.has c.name with
      | false => exact Condition.events_evaluate_of_has_eq_false hhas
      | true =>
        rw [if_pos rfl, List.flatMap_singleton]
  | group k cs ih =>
    cases room with
    | zero => rfl
    | succ room =>
      obtain ⟨front, rest, rfl, hevents⟩ :=
        exists_front_events_evaluateWithin registry value room k cs
      rw [Logged.invocations, hevents, List.filterMap_flatMap, List.flatMap_assoc]
      apply List.flatMap_congr
      intro t ht
      exact ih t (List.mem_append_left rest ht) room

/-- Which checks the evaluations of trees run, on a value and with a registry. -/
structure RunsInOrder (registry : Registry) (value : Json) : Prop where
  /-- Below the last level there is room for, none. -/
  tooDeep : ∀ t : Instruction, (t.evaluateWithin registry value 0).invocations = []
  /-- For a condition, its check. -/
  leaf : ∀ room (c : Condition),
    ((check c).evaluateWithin registry value (room + 1)).invocations =
      if registry.has c.name then [c] else []
  /-- For a group, those for each child, if they all let it go on. -/
  goesOn : ∀ room k (cs : List Instruction),
    (∀ t ∈ cs, (t.evaluateWithin registry value room).result = .ok k.neutral) →
      ((group k cs).evaluateWithin registry value (room + 1)).invocations =
        cs.flatMap fun t => (t.evaluateWithin registry value room).invocations
  /-- For any other group, those for its children up to and including the first that does not let
      it go on, by its verdict or by its error. -/
  stops : ∀ room k (front : List Instruction) (t : Instruction) (rest : List Instruction),
    (∀ u ∈ front, (u.evaluateWithin registry value room).result = .ok k.neutral) →
    (t.evaluateWithin registry value room).result ≠ .ok k.neutral →
      ((group k (front ++ t :: rest)).evaluateWithin registry value (room + 1)).invocations =
        (front.flatMap fun u => (u.evaluateWithin registry value room).invocations) ++
          (t.evaluateWithin registry value room).invocations
  /-- No condition comes in twice, or before one to its left. -/
  sublist : ∀ room (t : Instruction),
    (t.evaluateWithin registry value room).invocations.Sublist t.conditions
  /-- All that checks leave in the log, they leave in these runs. -/
  events : ∀ room (t : Instruction), (t.evaluateWithin registry value room).events =
    (t.evaluateWithin registry value room).invocations.flatMap
      fun c => (c.evaluate registry value).events

theorem runsInOrder (registry : Registry) (value : Json) : RunsInOrder registry value where
  tooDeep _ := rfl
  leaf _ c := c.invocations_evaluate
  goesOn _ _ _ := invocations_evaluateWithin_of_forall
  stops _ _ _ _ _ := invocations_evaluateWithin_of_stop
  sublist := invocations_sublist_conditions
  events := events_evaluateWithin

end Instruction

/-! ### Reading -/

namespace Draft

theorem quiet_collect (place : Place) (level : Nat) (all any : List Instruction) :
    (collect place level all any).Quiet := rfl

theorem quiet_normalizeValue (room : Nat) (place : Place) (j : Json) :
    (normalizeValue room place j).Quiet := by
  induction room generalizing place j with
  | zero => exact Logged.quiet_fail _
  | succ room ih =>
    have hrow : ∀ items, (Logged.forEach (normalizeValue room .nested) items).Quiet := by
      intro items
      exact Logged.Quiet.forEach fun j _ => ih .nested j
    cases j with
    | null =>
      cases place with
      | root => exact Logged.quiet_pure _
      | nested => exact Logged.quiet_pure _
    | bool b => exact Logged.quiet_pure _
    | num n => exact Logged.quiet_pure _
    | str s => exact Logged.quiet_pure _
    | arr items => exact (hrow items).bind fun _ => quiet_collect ..
    | obj members =>
      rw [normalizeValue]
      cases isShorthand members with
      | true => exact (Logged.quiet_ofExcept _).bind fun _ => Logged.quiet_pure _
      | false =>
        apply (Logged.quiet_ofExcept _).bind
        rintro ⟨all, any⟩
        apply (hrow all).bind
        intro alls
        exact (hrow any).bind fun _ => quiet_collect ..

theorem quiet_normalizeBody (room : Nat) (place : Place) (body : Body) :
    (normalizeBody room place body).Quiet := by
  induction room generalizing place body with
  | zero => exact Logged.quiet_fail _
  | succ room ih =>
    cases body with
    | written j => exact quiet_normalizeValue (room + 1) place j
    | settled r => exact Logged.quiet_pure _
    | conjunction bodies =>
      have hrow := Logged.Quiet.forEach fun body (_ : body ∈ bodies) => ih .nested body
      exact hrow.bind fun _ => Logged.quiet_pure _

theorem quiet_normalize (d : Draft) : d.normalize.Quiet := by
  obtain ⟨body, overrides⟩ := d
  cases body with
  | settled r => exact Logged.quiet_pure _
  | written j => exact (quiet_normalizeBody _ _ _).bind fun _ => rfl
  | conjunction bodies => exact (quiet_normalizeBody _ _ _).bind fun _ => rfl

theorem quiet_requirement (d : Draft) : d.requirement.Quiet :=
  d.quiet_normalize.bind fun _ => Logged.quiet_pure _

/-! ### Validation -/

variable {d : Draft}

theorem quiet_examine_of_bypasses (h : d.Bypasses value) : (d.examine registry value).Quiet := by
  rw [examine, if_pos (bypasses_iff.mp h)]
  rfl

theorem quiet_examine_of_normalize {e : Error} (h : d.normalize.result = .error e) :
    (d.examine registry value).Quiet := by
  by_cases hpass : d.Bypasses value
  · exact quiet_examine_of_bypasses hpass
  · have hrequirement : d.requirement.result = .error e :=
      Logged.result_bind_eq_error_iff.mpr (Or.inl h)
    rw [examine, if_neg (mt bypasses_iff.mpr hpass)]
    exact (Logged.invocations_bind_error hrequirement _).trans d.quiet_requirement

theorem invocations_examine {t : Requirement} (h : ¬ d.Bypasses value) (hasks : d.Asks t) :
    (d.examine registry value).invocations = (t.evaluate registry value).invocations := by
  rw [examine, if_neg (mt bypasses_iff.mpr h),
    d.quiet_requirement.invocations_bind_ok (requirement_eq_ok_iff.mpr hasks)]
  apply Logged.invocations_bind_of_quiet
  intro verdict _
  cases verdict with
  | true => exact Logged.quiet_pure _
  | false => exact (Logged.quiet_ofExcept _).bind fun _ => rfl

end Draft

/-! ### Handing out -/

namespace Report

theorem quiet_logOutcome (rep : Report) : rep.logOutcome.Quiet := by
  rw [logOutcome]
  split
  · rfl
  · rfl

theorem quiet_handOut (rep : Report) : rep.handOut.Quiet :=
  rep.quiet_logOutcome.bind fun _ => Logged.quiet_pure _

end Report

theorem Settings.quiet_defaultFor_or (s : Settings) (registry : Registry) (rep : Report) :
    (s.defaultFor registry rep).Quiet ∨ ∃ provider, s.default = some (.computed provider) ∧
      (s.defaultFor registry rep).invocations = (provider rep registry).invocations := by
  rw [defaultFor]
  cases s.default with
  | none => exact Or.inl (Logged.quiet_pure _)
  | some default =>
    cases default with
    | value j => exact Or.inl (Logged.quiet_pure _)
    | computed provider => exact Or.inr ⟨provider, rfl, rfl⟩

namespace Draft

variable {d : Draft}

/-- Of concluding a validation, only a computed default runs checks, where a value fails. -/
theorem quiet_conclude_or (registry : Registry) (d : Draft) (value : Json) (finding : Finding) :
    (d.conclude registry value finding).Quiet ∨ ∃ provider t m,
      d.settings.default = some (.computed provider) ∧ finding = .unmet t m ∧
        (d.conclude registry value finding).invocations =
          (provider (finding.report d.options value) registry).invocations := by
  cases finding with
  | bypassed => exact Or.inl (Report.quiet_handOut _)
  | met t => exact Or.inl (Report.quiet_handOut _)
  | unmet t m =>
    cases hthrow : d.options.throwOnFailure with
    | true =>
      rw [conclude_unmet_eq_fail hthrow]
      exact Or.inl ((Report.quiet_logOutcome _).bind fun _ => Logged.quiet_fail _)
    | false =>
      rw [conclude_unmet hthrow, Logged.Quiet,
        Logged.invocations_bind_of_quiet fun j _ => Report.quiet_handOut _]
      rcases d.settings.quiet_defaultFor_or registry
          ((Finding.unmet t m).report d.options value) with hquiet | ⟨provider, hdefault, hruns⟩
      · exact Or.inl hquiet
      · exact Or.inr ⟨provider, t, m, hdefault, rfl, hruns⟩

theorem quiet_validate_of_quiet_examine (hexamine : (d.examine registry value).Quiet)
    (hfinding : ∀ t m, (d.examine registry value).result ≠ .ok (.unmet t m)) :
    (d.validate registry value).Quiet := by
  rw [validate, Logged.Quiet, Logged.invocations_bind_of_quiet]
  · exact hexamine
  · intro finding hfound
    rcases d.quiet_conclude_or registry value finding with hquiet | ⟨_, t, m, -, rfl, -⟩
    · exact hquiet
    · exact absurd hfound (hfinding t m)

theorem quiet_validate_of_bypasses (h : d.Bypasses value) : (d.validate registry value).Quiet := by
  apply quiet_validate_of_quiet_examine (quiet_examine_of_bypasses h)
  intro t m hfound
  cases examine_eq_ok_iff.mp hfound with
  | unmet hpass => exact hpass h

theorem quiet_validate_of_normalize {e : Error} (h : d.normalize.result = .error e) :
    (d.validate registry value).Quiet := by
  apply quiet_validate_of_quiet_examine (quiet_examine_of_normalize h)
  intro t m hfound
  cases examine_eq_ok_iff.mp hfound with
  | unmet _ hasks =>
    obtain ⟨r, hr, -⟩ := hasks
    cases h.symm.trans hr

theorem exists_invocations_validate {t : Requirement} (h : ¬ d.Bypasses value)
    (hasks : d.Asks t) : ∃ rest,
      (d.validate registry value).invocations = (t.evaluate registry value).invocations ++ rest ∧
      (rest = [] ∨ ∃ provider m, d.settings.default = some (.computed provider) ∧
        d.Finds registry value (.unmet t m) ∧
        rest = (provider ((Finding.unmet t m).report d.options value) registry).invocations) := by
  rw [← invocations_examine h hasks, validate]
  cases hexamine : (d.examine registry value).result with
  | error e =>
    refine ⟨[], ?_, Or.inl rfl⟩
    rw [Logged.invocations_bind_error hexamine, List.append_nil]
  | ok finding =>
    refine ⟨_, Logged.invocations_bind_ok hexamine _, ?_⟩
    rcases d.quiet_conclude_or registry value finding with hquiet | ⟨provider, u, m, hcomputed⟩
    · exact Or.inl hquiet
    · obtain ⟨hdefault, rfl, hruns⟩ := hcomputed
      have hfinds : d.Finds registry value (.unmet u m) := examine_eq_ok_iff.mp hexamine
      -- the finding is about the requirement that was evaluated
      obtain rfl : u = t := by
        cases hfinds with
        | unmet _ hu => exact hu.unique hasks
      exact Or.inr ⟨provider, m, hdefault, hfinds, hruns⟩

/-- **Each check is run at most once, and only while it can matter.**  Evaluations run the checks
    of a tree from left to right until the verdict is known.  A validation runs those of evaluating
    what it holds the value against, followed by those of a computed default for a value that
    fails; it runs none if the value passes for being absent, or if the instruction is
    malformed. -/
theorem invocations_of_validate :
    (∀ registry value, Instruction.RunsInOrder registry value) ∧
    ∀ (registry : Registry) (d : Draft) (value : Json),
      (d.Bypasses value → (d.validate registry value).invocations = []) ∧
      (∀ e, d.normalize.result = .error e → (d.validate registry value).invocations = []) ∧
      ∀ t, ¬ d.Bypasses value → d.Asks t → ∃ rest,
        (d.validate registry value).invocations =
          (t.evaluate registry value).invocations ++ rest ∧
        (rest = [] ∨ ∃ provider m, d.settings.default = some (.computed provider) ∧
          d.Finds registry value (.unmet t m) ∧
          rest = (provider ((Finding.unmet t m).report d.options value) registry).invocations) := by
  refine ⟨Instruction.runsInOrder, ?_⟩
  intro registry d value
  refine ⟨quiet_validate_of_bypasses, ?_, ?_⟩
  · intro e h
    exact quiet_validate_of_normalize h
  · intro t h hasks
    exact exists_invocations_validate h hasks

end Draft

/-- One check that passes and one that fails, both of which mark their runs. -/
def Registry.probes : Registry :=
  empty.registerAll [("yes", .probe "yes" true), ("no", .probe "no" false)]

namespace Condition

def fails : Condition := ⟨"no", [], false⟩

def passes : Condition := ⟨"yes", [], false⟩

def passesFirst : Condition := ⟨"yes", [.str "first"], false⟩

end Condition

namespace Draft

/-- Alternatives that are decided by the second, followed by a condition that fails.  For a value
    that fails, another instruction is asked. -/
def hastyDraft : Draft :=
  (ofJson (.obj [("all", .arr [
    .arr [.str "no", .obj [("check", .str "yes"), ("args", .arr [.str "first"])], .str "yes"],
    .str "no", .str "yes"])])).defaultWith (Provider.otherwise (ofName "yes"))

def hastyAlternatives : Instruction :=
  .group .any [.check .fails, .check .passesFirst, .check .passes]

def hastyRequirement : Requirement :=
  ⟨.all, [hastyAlternatives, .check .fails, .check .passes]⟩

theorem invocations_of_validate_hastyDraft :
    (hastyAlternatives.evaluateWithin .probes .null 2).invocations = [.fails, .passesFirst] ∧
    ¬ hastyDraft.Bypasses .null ∧ hastyDraft.Asks hastyRequirement ∧
    (hastyRequirement.evaluate .probes .null).invocations = [.fails, .passesFirst, .fails] ∧
    (∃ rest, (hastyDraft.validate .probes .null).invocations =
      [.fails, .passesFirst, .fails] ++ rest) ∧
    (hastyDraft.validate .probes .null).invocations =
      [.fails, .passesFirst, .fails, .passes] ∧
    ((hastyDraft.allowAbsent true).validate .probes .null).invocations = [] ∧
    ((ofJson (.obj [("yes", .null), ("all", .null)])).validate .probes .null).invocations = [] := by
  have hpass : ¬ hastyDraft.Bypasses .null := nofun
  have hasks : hastyDraft.Asks hastyRequirement := ⟨_, rfl, rfl⟩
  have hruns : (hastyRequirement.evaluate .probes .null).invocations =
      [.fails, .passesFirst, .fails] := by
    with_unfolding_all rfl
  have hfails : ((Instruction.check .fails).evaluateWithin .probes .null 1).result =
      .ok false := by
    with_unfolding_all rfl
  have hpasses : ((Instruction.check .passesFirst).evaluateWithin .probes .null 1).result =
      .ok true := by
    with_unfolding_all rfl
  obtain ⟨horder, hvalidate⟩ := invocations_of_validate
  refine ⟨?_, hpass, hasks, hruns, ?_, ?_, ?_, ?_⟩
  · refine ((horder .probes .null).stops 1 .any [.check .fails] (.check .passesFirst)
      [.check .passes] (List.forall_mem_singleton.mpr hfails) ?_).trans ?_
    · rw [hpasses]
      nofun
    · with_unfolding_all rfl
  · obtain ⟨rest, hrest, -⟩ := (hvalidate .probes hastyDraft .null).2.2 _ hpass hasks
    exact ⟨rest, hruns ▸ hrest⟩
  · with_unfolding_all rfl
  · exact (hvalidate .probes (hastyDraft.allowAbsent true) .null).1 ⟨rfl, rfl⟩
  · exact (hvalidate .probes (ofJson _) .null).2.1 (.notAList .all .null) rfl

end Draft

end Proviso
