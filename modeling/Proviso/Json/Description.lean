/-
  Proviso/Json/Description.lean
  =============================
  **Values in words**, as the "provided" half of a failure message: the kind of the value, with
  its content where that is short and with its size otherwise.
-/
import Proviso.Json.Printer
import Proviso.Text.Quoted

namespace Proviso.Json

/-- The indefinite article of a noun. -/
def article (noun : String) : String :=
  match noun.toList.head? with
  | some c => if ['a', 'e', 'i', 'o', 'u'].contains c then "an" else "a"
  | none => "a"

/-- The kind of a value as a noun; `null` never takes an article. -/
def noun (withArticle : Bool) (j : Json) : String :=
  if withArticle && !j.isNull then article j.kind.text ++ " " ++ j.kind.text else j.kind.text

/-- What is said of a value behind its kind, with the characters of `hidden` written by code
    point in the excerpt of a text. -/
def detailBy (hidden : Char → Bool) : Json → String
  | .null => ""
  | .bool b => " (" ++ (Json.bool b).text ++ ")"
  | .num n => " (" ++ n.text ++ ")"
  | .str s => " (" ++ String.ofList (Text.excerptBy hidden s.toList) ++ ")"
  | .arr items => " of length " ++ items.length.repr
  | .obj [] => " with no keys"
  | .obj [_] => " with 1 key"
  | .obj members => " with " ++ members.length.repr ++ " keys"

/-- A value in words, with a given set of characters written by code point. -/
def describeBy (hidden : Char → Bool) (withArticle : Bool) (j : Json) : String :=
  j.noun withArticle ++ j.detailBy hidden

/-- A value in words. -/
def describe (withArticle : Bool) (j : Json) : String :=
  j.describeBy Unicode.isHidden withArticle

end Proviso.Json
