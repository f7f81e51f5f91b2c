/-
  Proviso/Proofs/Report/Split.lean
  ================================
  **A draft is its settings and the rest.**

  Splitting a draft leaves nothing behind and adds nothing.  The rest holds no settings, and it is
  read like the draft.  With the settings set on it again from outside, which is where they win
  over everything else, it is validated like the draft (`validate_withSettings_strip`).  So is the
  requirement that the draft spells (`result_validate_withSettings_ofRequirement`), since a
  validation looks at nothing of a draft but its settings and what is read from it.
-/
import Proviso.Proofs.Draft.Strip
import Proviso.Proofs.Logged.Rows
import Proviso.Provider
import Proviso.Registry.Builtin

namespace Proviso

/-! ### Settings in keys that are taken out -/

theorem isOptionKey_text (option : OptionKey) : isOptionKey option.text = true := by
  cases option <;> decide

theorem lookup_filter_of_isOptionKey {key : String} (h : isOptionKey key = true)
    (members : List (String × Json)) :
    (members.filter fun m => !isOptionKey m.1).lookup key = none := by
  rw [List.lookup_eq_none_iff]
  intro m hm
  have hother : (!isOptionKey m.1) = true := (List.mem_filter.mp hm).2
  rw [bne_iff_ne]
  rintro rfl
  rw [h] at hother
  cases hother

theorem Settings.ofMembers_strip (members : List (String × Json)) :
    ofMembers (members.filter fun m => !isOptionKey m.1) = {} := by
  simp only [ofMembers, lookup_filter_of_isOptionKey (isOptionKey_text _)]
  rfl

theorem Body.settings_strip (body : Body) : body.strip.settings = {} := by
  cases body with
  | written j =>
    cases j with
    | obj members => exact Settings.ofMembers_strip members
    | _ => rfl
  | settled r => rfl
  | conjunction bodies => rfl

theorem Body.strip_strip (body : Body) : body.strip.strip = body.strip := by
  cases body with
  | written j =>
    cases j with
    | obj members => simp [strip]
    | _ => rfl
  | settled r => rfl
  | conjunction bodies => rfl

namespace Draft

theorem settings_strip (d : Draft) : d.strip.settings = {} := by
  rw [settings, strip, Body.settings_strip]
  rfl

theorem strip_strip (d : Draft) : d.strip.strip = d.strip := by
  rw [strip, strip, Body.strip_strip]

/-! ### Settings set again -/

/-- The draft on which all that the settings specify is set from outside. -/
def withSettings (s : Settings) (d : Draft) : Draft :=
  let d := s.throwOnFailure.elim d fun b => d.throwOnFailure b
  let d := s.allowAbsent.elim d fun b => d.allowAbsent b
  let d := s.default.elim d fun
    | .value j => d.defaultValue j
    | .computed provider => d.defaultWith provider
  let d := s.returnFullResult.elim d fun b => d.returnFullResult b
  s.debug.elim d fun b => d.debug b

theorem withSettings_eq (s : Settings) (d : Draft) :
    d.withSettings s = d.mapOverrides s.orElse := by
  -- each setter fills in one option, whether or not the others are specified
  rcases s with ⟨_ | _, _ | _, _ | ⟨_ | _⟩, _ | _, _ | _⟩ <;> rfl

theorem normalize_withSettings (s : Settings) (d : Draft) :
    (d.withSettings s).normalize = d.normalize := by
  rw [withSettings_eq]
  rfl

theorem settings_withSettings {d : Draft} (h : d.settings = {}) (s : Settings) :
    (d.withSettings s).settings = s := by
  have hsame : (d.withSettings s).settings = s.orElse d.settings := by
    rw [withSettings_eq, settings, settings, ← Settings.orElse_assoc]
    rfl
  rw [hsame, h, Settings.orElse_empty]

/-! ### What a validation looks at -/

section

variable {d d' : Draft} (hsettings : d.settings = d'.settings) (registry : Registry) (value : Json)
include hsettings

theorem conclude_congr : d.conclude registry value = d'.conclude registry value := by
  funext finding
  rw [conclude, conclude, options, options, hsettings]

theorem validate_congr (hread : d.normalize = d'.normalize) :
    d.validate registry value = d'.validate registry value := by
  rw [validate, validate, conclude_congr hsettings, examine, examine, requirement, requirement,
    options, options, hsettings, hread]

theorem result_examine_congr (hread : d.normalize.result = d'.normalize.result) :
    (d.examine registry value).result = (d'.examine registry value).result := by
  have hrequirement : d.requirement.result = d'.requirement.result := by
    rw [requirement, requirement, Logged.result_bind, Logged.result_bind, hread]
  rw [examine, examine, options, options, hsettings]
  split
  · rfl
  · rw [Logged.result_bind, Logged.result_bind, hrequirement]

theorem result_validate_congr (hread : d.normalize.result = d'.normalize.result) :
    (d.validate registry value).result = (d'.validate registry value).result := by
  rw [validate, validate, Logged.result_bind, Logged.result_bind, conclude_congr hsettings,
    result_examine_congr hsettings registry value hread]

end

/-! ### Splitting -/

theorem validate_withSettings_strip (d : Draft) (registry : Registry) (value : Json) :
    (d.strip.withSettings d.settings).validate registry value = d.validate registry value := by
  apply validate_congr
  · exact settings_withSettings d.settings_strip d.settings
  · rw [normalize_withSettings, normalize_strip]

theorem result_validate_withSettings_ofRequirement {d : Draft} {t : Requirement}
    (h : d.normalize.result = .ok t) (registry : Registry) (value : Json) :
    (((ofRequirement t).withSettings d.settings).validate registry value).result =
      (d.validate registry value).result := by
  apply result_validate_congr
  · exact settings_withSettings rfl d.settings
  · rw [normalize_withSettings, h]
    rfl

/-- **Splitting a draft loses nothing.**  What remains has no settings, so splitting it again
    leaves it as it is, and it is read like the draft.  It is also validated like the draft, with
    the settings set on it from outside; and so is the requirement that is read. -/
theorem extract_lossless (d : Draft) :
    d.extract.2.extract = ({}, d.extract.2) ∧
    d.extract.2.normalize = d.normalize ∧
    ∀ (registry : Registry) (value : Json),
      (d.extract.2.withSettings d.extract.1).validate registry value =
        d.validate registry value ∧
      ∀ t, d.normalize.result = .ok t →
        (((ofRequirement t).withSettings d.extract.1).validate registry value).result =
          (d.validate registry value).result := by
  refine ⟨?_, normalize_strip d, ?_⟩
  · show (d.strip.settings, d.strip.strip) = _
    rw [settings_strip, strip_strip]
    rfl
  · intro registry value
    refine ⟨validate_withSettings_strip d registry value, ?_⟩
    intro t h
    exact result_validate_withSettings_ofRequirement h registry value

/-- A single condition with options around it, of which the default gives way to one that is
    computed. -/
def opinionatedDraft : Draft :=
  (ofJson (.obj [("debug", .bool true), ("check", .str "!isString"), ("default_value", .null),
    ("return_full_result", .bool true)])).defaultWith Provider.message

theorem extract_lossless_opinionatedDraft :
    opinionatedDraft.extract.2 = ofJson (.obj [("check", .str "!isString")]) ∧
    opinionatedDraft.normalize.result = .ok ⟨.all, [.check ⟨"isString", [], true⟩]⟩ ∧
    (((ofRequirement ⟨.all, [.check ⟨"isString", [], true⟩]⟩).withSettings
      opinionatedDraft.extract.1).validate .builtin (.str "x")).result =
        (opinionatedDraft.validate .builtin (.str "x")).result ∧
    ((opinionatedDraft.validate .builtin (.str "x")).result.toOption.map Outcome.finalValue) =
      some (.str "expected not a string but a string (\"x\") was provided.") := by
  have hread : opinionatedDraft.normalize.result =
      .ok ⟨.all, [.check ⟨"isString", [], true⟩]⟩ := rfl
  obtain ⟨-, -, hvalidate⟩ := extract_lossless opinionatedDraft
  refine ⟨rfl, hread, (hvalidate .builtin (.str "x")).2 _ hread, ?_⟩
  with_unfolding_all rfl

end Draft

end Proviso
