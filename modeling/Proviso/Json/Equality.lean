/-
  Proviso/Json/Equality.lean
  ==========================
  **Two equalities of values**, which differ in their numbers only.

  Both ignore the order of an object's keys at every depth.  `Json.agrees` takes numbers by
  magnitude, so `5` and `5.0` are equal; `Json.same` keeps the two forms apart.
-/
import Proviso.Json.Basic

namespace Proviso.Json

mutual

/-- Equality of values up to key order, with `eqNumber` deciding on numbers. -/
def equalBy (eqNumber : Number → Number → Bool) : Json → Json → Bool
  | .null, .null => true
  | .bool a, .bool b => a == b
  | .num m, .num n => eqNumber m n
  | .str s, .str t => s == t
  | .arr l, .arr r => equalItems eqNumber l r
  | .obj l, .obj r => l.length == r.length && equalMembers eqNumber l r
  | _, _ => false

def equalItems (eqNumber : Number → Number → Bool) : List Json → List Json → Bool
  | [], [] => true
  | x :: l, y :: r => equalBy eqNumber x y && equalItems eqNumber l r
  | _, _ => false

/-- Every member on the left is on the right, with an equal value. -/
def equalMembers (eqNumber : Number → Number → Bool) :
    List (String × Json) → List (String × Json) → Bool
  | [], _ => true
  | (key, x) :: l, r =>
    (match r.lookup key with
      | some y => equalBy eqNumber x y
      | none => false) && equalMembers eqNumber l r

end

/-- Equality with numbers by magnitude. -/
def agrees : Json → Json → Bool := equalBy Number.agrees

/-- Equality with numbers by magnitude and form. -/
def same : Json → Json → Bool := equalBy Number.same

end Proviso.Json
