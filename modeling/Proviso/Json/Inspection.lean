/-
  Proviso/Json/Inspection.lean
  ============================
  **Values spelled out**, each with the name of its form.  For diagnostics: `5` and `"5"` are
  `Number(5)` and `String("5")`.
-/
import Proviso.Json.Printer
import Proviso.Text.Quoted

namespace Proviso.Json

mutual

/-- A value with the name of its form. -/
def inspect : Json → String
  | .null => "Null"
  | .bool b => "Bool(" ++ (Json.bool b).text ++ ")"
  | .num n => "Number(" ++ n.text ++ ")"
  | .str s => "String(" ++ Text.quote s ++ ")"
  | .arr items => "Array [" ++ ", ".intercalate (inspectItems items) ++ "]"
  | .obj members => "Object \x7b" ++ ", ".intercalate (inspectMembers members) ++ "\x7d"

def inspectItems : List Json → List String
  | [] => []
  | j :: rest => j.inspect :: inspectItems rest

def inspectMembers : List (String × Json) → List String
  | [] => []
  | (key, j) :: rest => (Text.quote key ++ ": " ++ j.inspect) :: inspectMembers rest

end

end Proviso.Json
