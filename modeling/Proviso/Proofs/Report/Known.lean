/-
  Proviso/Proofs/Report/Known.lean
  ================================
  **A failing verdict needs a tree that is known throughout.**

  A validation evaluates the tree first and describes it only where the verdict is negative.  The
  two visit nodes in the same order, but the evaluation leaves some out, so it may pass over a
  node that the description stops at.  A tree that is not known can thus be met, but a value that
  does not meet it never surfaces as a failure or with a default: the description stands in the
  way (`result_validate_of_not_known`).  A tree that is known throughout never is the cause of an
  error (`result_validate_of_known`).
-/
import Proviso.Proofs.Instruction.Nodes
import Proviso.Proofs.Report.Surface

namespace Proviso

namespace Draft

variable {registry : Registry} {d : Draft} {value : Json} {t : Requirement}

theorem result_examine (hpass : ¬ d.Bypasses value) (hasks : d.Asks t) :
    (d.examine registry value).result = (t.evaluate registry value).result >>= fun verdict =>
      if verdict then .ok (.met t)
      else t.describe registry >>= fun expected =>
        .ok (.unmet t ⟨expected, value.describe true⟩) := by
  rw [examine, if_neg (mt bypasses_iff.mpr hpass), Logged.result_bind,
    requirement_eq_ok_iff.mpr hasks]
  show Logged.result (_ >>= _) = _
  rw [Logged.result_bind]
  congr 1
  funext verdict
  cases verdict with
  | true => rfl
  | false => exact Logged.result_bind _ _

/-- An error of examining a value is one of its tree, which then is not known. -/
theorem examine_eq_error_of_asks {e : Error} (hpass : ¬ d.Bypasses value) (hasks : d.Asks t)
    (h : (d.examine registry value).result = .error e) :
    ¬ t.Known registry ∧ (e = .tooDeep ∨ ∃ name, e = .unknownCheck name) := by
  rw [result_examine hpass hasks] at h
  rcases bind_eq_error_iff.mp h with h | ⟨verdict, -, h⟩
  · refine ⟨?_, Requirement.evaluate_eq_error h⟩
    intro hknown
    obtain ⟨verdict, hverdict⟩ := hknown.exists_verdict value
    rw [hverdict] at h
    cases h
  · cases verdict with
    | true => cases h
    | false =>
      rcases bind_eq_error_iff.mp h with h | ⟨expected, -, h⟩
      · refine ⟨?_, Requirement.describe_eq_error h⟩
        intro hknown
        obtain ⟨text, htext⟩ := Requirement.exists_describe_eq_ok_iff.mpr hknown
        rw [htext] at h
        cases h
      · cases h

/-- A tree that is not known is met, or else in the way of every other outcome. -/
theorem result_validate_of_not_known (hpass : ¬ d.Bypasses value) (hasks : d.Asks t)
    (hknown : ¬ t.Known registry) :
    ((t.evaluate registry value).result = .ok true ∧
      (d.validate registry value).result = .ok ((Finding.met t).report d.options value).outcome) ∨
    ∃ e : Error, (e = .tooDeep ∨ ∃ name, e = .unknownCheck name) ∧
      (d.validate registry value).result = .error e := by
  cases hfound : (d.examine registry value).result with
  | error e =>
    have hlookup := (examine_eq_error_of_asks hpass hasks hfound).2
    exact Or.inr ⟨e, hlookup, Logged.result_bind_eq_error_iff.mpr (Or.inl hfound)⟩
  | ok finding =>
    have hfinds := examine_eq_ok_iff.mp hfound
    cases hfinds with
    | bypassed h => exact absurd h hpass
    | met _ hu hverdict =>
      cases hu.unique hasks
      exact Or.inl ⟨hverdict, validate_of_finds_met (examine_eq_ok_iff.mp hfound)⟩
    | unmet _ hu _ hwording =>
      cases hu.unique hasks
      exact absurd (Requirement.exists_describe_eq_ok_iff.mp ⟨_, hwording⟩) hknown

theorem result_validate_of_known (hpass : ¬ d.Bypasses value) (hasks : d.Asks t)
    (hknown : t.Known registry) {e : Error}
    (h : (d.validate registry value).result = .error e) :
    e ≠ .tooDeep ∧ ∀ name, e ≠ .unknownCheck name := by
  cases hfound : (d.examine registry value).result with
  | error e' => exact absurd hknown (examine_eq_error_of_asks hpass hasks hfound).1
  | ok finding =>
    -- what is left are the errors of concluding
    have hsurface := surfaces_validate (examine_eq_ok_iff.mp hfound)
    rw [h] at hsurface
    cases hsurface with
    | failed hthrow => exact ⟨nofun, nofun⟩
    | refused hdefault htext => exact ⟨nofun, nofun⟩

/-- **A failing verdict needs a tree that is known throughout.**  A tree is described iff there is
    a check under each of its names and no node stands too deep; otherwise the error is that of
    the first node, from left to right and each before its children, that something is wrong with.
    What can be described has a verdict on every value.  So a value that is held against a tree
    which is not known either meets it, or the validation ends with one of these errors; and with
    a tree that is known it never ends with one of them. -/
theorem describe_ok_iff_known_and_validate :
    (∀ (registry : Registry) (r : Requirement),
      ((∃ text, r.describe registry = .ok text) ↔ r.Known registry) ∧
      (∀ e, r.describe registry = .error e ↔
        (r.root.nodes 1).findSome? (Node.offence? registry) = some e) ∧
      ((∃ text, r.describe registry = .ok text) →
        ∀ value, ∃ verdict, (r.evaluate registry value).result = .ok verdict)) ∧
    ∀ (registry : Registry) (d : Draft) (value : Json) (t : Requirement),
      ¬ d.Bypasses value → d.Asks t →
        (¬ t.Known registry →
          ((t.evaluate registry value).result = .ok true ∧ (d.validate registry value).result =
            .ok ((Finding.met t).report d.options value).outcome) ∨
          ∃ e : Error, (e = .tooDeep ∨ ∃ name, e = .unknownCheck name) ∧
            (d.validate registry value).result = .error e) ∧
        (t.Known registry → ∀ e, (d.validate registry value).result = .error e →
          e ≠ .tooDeep ∧ ∀ name, e ≠ .unknownCheck name) := by
  constructor
  · intro registry r
    refine ⟨Requirement.exists_describe_eq_ok_iff, ?_, ?_⟩
    · intro e
      rw [← error?_eq_some_iff, Requirement.error?_describe]
    · intro h
      exact (Requirement.exists_describe_eq_ok_iff.mp h).exists_verdict
  · intro registry d value t hpass hasks
    refine ⟨result_validate_of_not_known hpass hasks, ?_⟩
    intro hknown e
    exact result_validate_of_known hpass hasks hknown

/-- A demand for two checks, only the first of which is registered. -/
def halfKnown : Draft := ofJson (.obj [("all", .arr [.str "isString", .str "noSuchCheck"])])

def halfKnownRequirement : Requirement :=
  ⟨.all, [.check ⟨"isString", [], false⟩, .check ⟨"noSuchCheck", [], false⟩]⟩

theorem describe_ok_iff_known_and_validate_halfKnown :
    (¬ halfKnown.Bypasses (.bool true) ∧ halfKnown.Asks halfKnownRequirement ∧
      ¬ halfKnownRequirement.Known .builtin ∧
      (halfKnownRequirement.evaluate .builtin (.bool true)).result = .ok false ∧
      ∃ e : Error, (e = .tooDeep ∨ ∃ name, e = .unknownCheck name) ∧
        (halfKnown.validate .builtin (.bool true)).result = .error e) ∧
    ¬ absent.Bypasses .null ∧ absent.Asks .present ∧ Requirement.present.Known .builtin ∧
      ∃ rep, (absent.validate .builtin .null).result = .error (.failed rep) ∧
        Error.failed rep ≠ .tooDeep := by
  obtain ⟨hdescribe, hvalidate⟩ := describe_ok_iff_known_and_validate
  constructor
  · have hpass : ¬ halfKnown.Bypasses (.bool true) := fun h => absurd h.2 nofun
    have hasks : halfKnown.Asks halfKnownRequirement :=
      ⟨halfKnownRequirement, by with_unfolding_all rfl, rfl⟩
    have hwording : halfKnownRequirement.describe .builtin =
        .error (.unknownCheck "noSuchCheck") := by with_unfolding_all rfl
    have hverdict : (halfKnownRequirement.evaluate .builtin (.bool true)).result = .ok false := by
      with_unfolding_all rfl
    have hknown : ¬ halfKnownRequirement.Known .builtin := by
      intro h
      obtain ⟨text, htext⟩ := (hdescribe _ _).1.mpr h
      rw [hwording] at htext
      cases htext
    refine ⟨hpass, hasks, hknown, hverdict, ?_⟩
    rcases (hvalidate _ _ _ _ hpass hasks).1 hknown with ⟨hmet, -⟩ | herror
    · rw [hverdict] at hmet
      cases hmet
    · exact herror
  · have hpass : ¬ absent.Bypasses .null := fun h => absurd h.1 nofun
    have hasks : absent.Asks .present := ⟨⟨.all, []⟩, by with_unfolding_all rfl, rfl⟩
    have hwording : Requirement.present.describe .builtin = .ok "a present value" := by
      with_unfolding_all rfl
    have hknown : Requirement.present.Known .builtin := (hdescribe _ _).1.mp ⟨_, hwording⟩
    have hresult : ∃ rep, (absent.validate .builtin .null).result = .error (.failed rep) :=
      ⟨_, by with_unfolding_all rfl⟩
    obtain ⟨rep, hrep⟩ := hresult
    exact ⟨hpass, hasks, hknown, rep, hrep, ((hvalidate _ _ _ _ hpass hasks).2 hknown _ hrep).1⟩

end Draft

end Proviso
