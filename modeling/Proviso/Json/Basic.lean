/-
  Proviso/Json/Basic.lean
  =======================
  **Values of a document**: `null`, booleans, numbers, texts, lists and objects.

  An object is the list of its members in written order; a key occurs once (`DistinctKeys`), so
  looking a key up does not depend on the order.
-/
import Proviso.Json.Number

namespace Proviso

/-- A value of a document. -/
inductive Json where
  | null
  | bool (b : Bool)
  | num (n : Number)
  | str (s : String)
  | arr (items : List Json)
  | obj (members : List (String × Json))
  deriving Inhabited, Repr

/-- The kinds of value that texts distinguish. -/
inductive Kind where
  | null | boolean | integer | number | string | array | object
  deriving DecidableEq, Repr

def Kind.text : Kind → String
  | .null => "null"
  | .boolean => "boolean"
  | .integer => "integer"
  | .number => "number"
  | .string => "string"
  | .array => "array"
  | .object => "object"

namespace Json

/-- The kind of a value; a number without fractional part is an integer, also when it is written
    with one (`5.0`). -/
def kind : Json → Kind
  | .null => .null
  | .bool _ => .boolean
  | .num n => if n.isInteger then .integer else .number
  | .str _ => .string
  | .arr _ => .array
  | .obj _ => .object

/-- Whether the value is `null`, which stands for an absent value. -/
def isNull : Json → Bool
  | .null => true
  | _ => false

def number? : Json → Option Number
  | .num n => some n
  | _ => none

def text? : Json → Option String
  | .str s => some s
  | _ => none

def bool? : Json → Option Bool
  | .bool b => some b
  | _ => none

/-- Characters of a text, items of a list, keys of an object. -/
def size? : Json → Option Nat
  | .str s => some s.length
  | .arr items => some items.length
  | .obj members => some members.length
  | _ => none

def ofWhole (n : Whole) : Json := .num (.whole n)

mutual

/-- Every object of the value has distinct keys. -/
def DistinctKeys : Json → Prop
  | .arr items => DistinctKeysList items
  | .obj members => (members.map Prod.fst).Nodup ∧ DistinctKeysMembers members
  | _ => True

def DistinctKeysList : List Json → Prop
  | [] => True
  | j :: rest => DistinctKeys j ∧ DistinctKeysList rest

def DistinctKeysMembers : List (String × Json) → Prop
  | [] => True
  | (_, j) :: rest => DistinctKeys j ∧ DistinctKeysMembers rest

end

end Json

end Proviso
