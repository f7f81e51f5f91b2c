/-
  Proviso/Json/Printer.lean
  =========================
  **Values in writing**, without blanks and with the keys in their order.

  A text escapes the quote, the backslash and the controls; every other character stands for
  itself.
-/
import Proviso.Decimal.Text
import Proviso.Json.Basic
import Proviso.Text.Digits

namespace Proviso.Json

open Proviso.Text

/-- One character of a written text. -/
def writtenChar (c : Char) : List Char :=
  match c with
  | '"' => ['\\', '"']
  | '\\' => ['\\', '\\']
  | '\x08' => ['\\', 'b']
  | '\x0c' => ['\\', 'f']
  | '\n' => ['\\', 'n']
  | '\r' => ['\\', 'r']
  | '\t' => ['\\', 't']
  | _ => if c.toNat < 0x20 then '\\' :: 'u' :: hexPadded 4 c.toNat else [c]

/-- A text between quotes. -/
def writtenText (s : String) : String :=
  String.ofList ('"' :: (s.toList.flatMap writtenChar ++ ['"']))

mutual

/-- A value in writing. -/
def text : Json → String
  | .null => "null"
  | .bool b => if b then "true" else "false"
  | .num n => n.text
  | .str s => writtenText s
  | .arr items => "[" ++ ",".intercalate (textItems items) ++ "]"
  | .obj members => "\x7b" ++ ",".intercalate (textMembers members) ++ "\x7d"

def textItems : List Json → List String
  | [] => []
  | j :: rest => j.text :: textItems rest

def textMembers : List (String × Json) → List String
  | [] => []
  | (key, j) :: rest => (writtenText key ++ ":" ++ j.text) :: textMembers rest

end

end Proviso.Json
