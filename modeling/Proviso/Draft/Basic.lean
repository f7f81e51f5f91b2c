/-
  Proviso/Draft/Basic.lean
  ========================
  **Drafts**: instructions as callers hand them in, before they are normalized.

  A draft has a body, which is a value of a document, a requirement, or the conjunction of other
  bodies, and the settings made on it from outside.
-/
import Proviso.Settings

namespace Proviso

/-- What a draft asks for. -/
inductive Body where
  /-- Written as a value; `null` asks for nothing. -/
  | written (j : Json)
  /-- Normalized already. -/
  | settled (r : Requirement)
  /-- All of the bodies. -/
  | conjunction (bodies : List Body)
  deriving Inhabited, Repr

/-- An instruction as handed in. -/
structure Draft where
  body : Body
  overrides : Settings := {}

namespace Draft

/-- A written instruction. -/
def ofJson (j : Json) : Draft := { body := .written j }

/-- The check of a name, which may be negated. -/
def ofName (name : String) : Draft := ofJson (.str name)

def ofRequirement (r : Requirement) : Draft := { body := .settled r }

def absent : Draft := ofJson .null

/-- The value a written instruction consists of. -/
def json? (d : Draft) : Option Json :=
  match d.body with
  | .written j => some j
  | _ => none

end Draft

/-- Whether the body is the absent instruction. -/
def Body.isAbsent : Body → Bool
  | .written j => j.isNull
  | _ => false

namespace Draft

def isAbsent (d : Draft) : Bool := d.body.isAbsent

/-! ### Settings from outside -/

/-- The draft with other settings. -/
def mapOverrides (f : Settings → Settings) (d : Draft) : Draft :=
  { d with overrides := f d.overrides }

def throwOnFailure (b : Bool) : Draft → Draft :=
  mapOverrides fun s => { s with throwOnFailure := some b }

def allowAbsent (b : Bool) : Draft → Draft :=
  mapOverrides fun s => { s with allowAbsent := some b }

/-- Sets the value handed out in place of one that fails. -/
def defaultValue (j : Json) : Draft → Draft :=
  mapOverrides fun s => { s with default := some (.value j) }

/-- Sets how to compute the value handed out in place of one that fails. -/
def defaultWith (provider : Provider) : Draft → Draft :=
  mapOverrides fun s => { s with default := some (.computed provider) }

def returnFullResult (b : Bool) : Draft → Draft :=
  mapOverrides fun s => { s with returnFullResult := some b }

def debug (b : Bool) : Draft → Draft := mapOverrides fun s => { s with debug := some b }

end Draft

end Proviso
