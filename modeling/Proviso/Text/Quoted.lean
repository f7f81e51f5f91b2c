/-
  Proviso/Text/Quoted.lean
  ========================
  **Quoted texts**: a text between double quotes in which every character is told apart.

  Quotes and backslashes are escaped, four controls have a letter, and the characters of a given
  set are written by their code point.  The set is a parameter; `quote` takes the characters that
  would not show as themselves.
-/
import Proviso.Text.Digits
import Proviso.Unicode.Classes

namespace Proviso.Text

abbrev backslash : Char := '\\'

/-- A character by its code point: `\u\x7b1f\x7d` for U+001F. -/
def codePointEscape (c : Char) : List Char :=
  backslash :: 'u' :: '\x7b' :: (hexDigits c.toNat ++ ['\x7d'])

/-- One character of a quoted text, with the characters of `hidden` written by code point. -/
def quotedChar (hidden : Char → Bool) (c : Char) : List Char :=
  match c with
  | '"' => [backslash, '"']
  | '\\' => [backslash, backslash]
  | '\x00' => [backslash, '0']
  | '\t' => [backslash, 't']
  | '\n' => [backslash, 'n']
  | '\r' => [backslash, 'r']
  | _ => if hidden c then codePointEscape c else [c]

/-- A text between quotes, with the characters of `hidden` written by code point. -/
def quotedBy (hidden : Char → Bool) (s : List Char) : List Char :=
  '"' :: (s.flatMap (quotedChar hidden) ++ ['"'])

/-- The most characters of a text that an excerpt quotes. -/
abbrev excerptLength : Nat := 32

/-- A text between quotes; of a longer one the beginning, with an ellipsis behind the quotes. -/
def excerptBy (hidden : Char → Bool) (s : List Char) : List Char :=
  if s.length ≤ excerptLength then quotedBy hidden s
  else quotedBy hidden (s.take excerptLength) ++ "...".toList

def quote (s : String) : String := String.ofList (quotedBy Unicode.isHidden s.toList)

end Proviso.Text
