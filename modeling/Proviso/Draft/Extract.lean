/-
  Proviso/Draft/Extract.lean
  ==========================
  **Taking the settings out of a draft**, and joining drafts into one that asks for all of them.

  Settings from outside win over those in the keys of the body.  In a merge earlier drafts win
  over later ones, and absent drafts add nothing but their settings.
-/
import Proviso.Draft.Basic

namespace Proviso

namespace Body

/-- The settings in the keys of the body. -/
def settings : Body → Settings
  | .written (.obj members) => Settings.ofMembers members
  | _ => {}

/-- The body without the keys that hold options. -/
def strip : Body → Body
  | .written (.obj members) => .written (.obj (members.filter fun m => !isOptionKey m.1))
  | body => body

end Body

namespace Draft

/-- The settings of a draft. -/
def settings (d : Draft) : Settings := d.overrides.orElse d.body.settings

def options (d : Draft) : Options := d.settings.resolve

/-- The draft without any settings. -/
def strip (d : Draft) : Draft := { body := d.body.strip }

/-- Splits a draft into its settings and the rest. -/
def extract (d : Draft) : Settings × Draft := (d.settings, d.strip)

/-- The settings of the first draft that specifies them, option by option. -/
def mergedSettings (drafts : List Draft) : Settings :=
  drafts.foldl (fun s d => s.orElse d.settings) {}

/-- The bodies of the drafts that are not absent, without their settings. -/
def mergedBodies (drafts : List Draft) : List Body :=
  (drafts.map fun d => d.body.strip).filter fun b => !b.isAbsent

/-- One draft that asks for all of them. -/
def merge (drafts : List Draft) : Draft where
  body := .conjunction (mergedBodies drafts)
  overrides := mergedSettings drafts

end Draft

end Proviso
