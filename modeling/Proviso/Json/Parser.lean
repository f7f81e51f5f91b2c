/-
  Proviso/Json/Parser.lean
  ========================
  **Reading a document.**

  The open lists and objects are kept on a stack, innermost first, so nesting costs no recursion
  and has no limit.  A key that occurs twice keeps its first place and takes its last value.
-/
import Proviso.Json.Token

namespace Proviso.Json

/-- `members` with `key` bound to `j`: in its place if it is there, and at the end otherwise. -/
def setMember (members : List (String × Json)) (key : String) (j : Json) :
    List (String × Json) :=
  if members.any (·.1 == key) then
    members.map fun m => if m.1 == key then (key, j) else m
  else members ++ [(key, j)]

/-- An open list with its items so far in reverse, or an open object with its members so far and
    the key that waits for its value. -/
inductive Frame where
  | list (items : List Json)
  | object (members : List (String × Json)) (key : String)
  deriving Repr

/-- What may come next. -/
inductive Expected where
  /-- The value of the document, of an object's key, or behind a comma in a list. -/
  | value
  /-- The first item of a list, or its end. -/
  | firstItem
  /-- The first key of an object, or its end. -/
  | firstKey
  /-- A key behind a comma. -/
  | key (members : List (String × Json))
  /-- The colon behind a key. -/
  | colon (members : List (String × Json)) (key : String)
  /-- A comma or the end of the innermost list or object. -/
  | more (last : Json)
  deriving Repr

/-- The state of reading: the open lists and objects, and what may come next. -/
structure Reading where
  stack : List Frame
  expected : Expected
  deriving Repr

namespace Reading

/-- Nothing is read. -/
def start : Reading := ⟨[], .value⟩

/-- A value is complete. -/
def complete (stack : List Frame) (j : Json) : Reading := ⟨stack, .more j⟩

/-- A value begins. -/
def begin? (stack : List Frame) : Token → Option Reading
  | .scalar j => some (complete stack j)
  | .mark .openList => some ⟨.list [] :: stack, .firstItem⟩
  | .mark .openObject => some ⟨stack, .firstKey⟩
  | .mark _ => none

/-- One token. -/
def step? (r : Reading) (t : Token) : Option Reading :=
  match r.expected, t, r.stack with
  | .value, t, stack => begin? stack t
  | .firstItem, .mark .closeList, _ :: stack => some (complete stack (.arr []))
  | .firstItem, t, stack => begin? stack t
  | .firstKey, .mark .closeObject, stack => some (complete stack (.obj []))
  | .firstKey, .scalar (.str key), stack => some ⟨stack, .colon [] key⟩
  | .key members, .scalar (.str key), stack => some ⟨stack, .colon members key⟩
  | .colon members key, .mark .colon, stack => some ⟨.object members key :: stack, .value⟩
  | .more j, .mark .comma, .list items :: stack => some ⟨.list (j :: items) :: stack, .value⟩
  | .more j, .mark .closeList, .list items :: stack =>
    some (complete stack (.arr (j :: items).reverse))
  | .more j, .mark .comma, .object members key :: stack =>
    some ⟨stack, .key (setMember members key j)⟩
  | .more j, .mark .closeObject, .object members key :: stack =>
    some (complete stack (.obj (setMember members key j)))
  | _, _, _ => none

/-- The tokens that one character completes. -/
def character? (s : Mode × Reading) (c : Char) : Option (Mode × Reading) := do
  let (mode, tokens) ← Token.step? s.1 c
  return (mode, ← tokens.foldlM step? s.2)

/-- The document, if it is complete. -/
def result? (r : Reading) : Option Json :=
  match r with
  | ⟨[], .more j⟩ => some j
  | _ => none

end Reading

/-- Reads a document: one value, with blanks around its tokens. -/
def parse? (s : String) : Option Json := do
  let (mode, reading) ← s.toList.foldlM Reading.character? (.between, Reading.start)
  let reading ← (← Token.finish? mode).foldlM Reading.step? reading
  reading.result?

/-! ### Corners of the format -/

example : (setMember [("k", .null), ("l", .null)] "k" (.bool true)).map (fun m => (m.1, m.2.kind)) =
    [("k", .boolean), ("l", .null)] := by decide
example : (parse? "[1,]").isNone := by cbv

end Proviso.Json
