/-
  Proviso/Json/Token.lean
  =======================
  **Tokens of a document.**

  The reader takes one character at a time and keeps a mode: between tokens, inside a bare word,
  or inside a text and its escapes.  A character that ends a word is a token of its own or a
  blank, so no character is looked at twice.
-/
import Proviso.Decimal.Reading
import Proviso.Json.Basic
import Proviso.Text.Digits

namespace Proviso.Json

open Proviso.Text

/-- The marks that hold lists and objects together. -/
inductive Mark where
  | openList | closeList | openObject | closeObject | comma | colon
  deriving DecidableEq, Repr

/-- A token: a mark, or a value without parts. -/
inductive Token where
  | mark (m : Mark)
  | scalar (j : Json)
  deriving Repr

/-- Where the reader stands.  Characters taken so far are kept in reverse; `high` is the first
    half of a surrogate pair that waits for its second. -/
inductive Mode where
  | between
  | word (taken : List Char)
  | inText (taken : List Char)
  | escape (taken : List Char) (high : Option Nat)
  | code (taken : List Char) (high : Option Nat) (digits : List Char)
  | awaitLow (taken : List Char) (high : Nat)
  deriving Repr

namespace Token

def markOf? : Char → Option Mark
  | '[' => some .openList
  | ']' => some .closeList
  | '\x7b' => some .openObject
  | '\x7d' => some .closeObject
  | ',' => some .comma
  | ':' => some .colon
  | _ => none

def isBlank (c : Char) : Bool := c == ' ' || c == '\t' || c == '\n' || c == '\r'

/-- The value of a bare word. -/
def ofWord? (cs : List Char) : Option Json :=
  if cs = "null".toList then some .null
  else if cs = "true".toList then some (.bool true)
  else if cs = "false".toList then some (.bool false)
  else (Number.read? cs).map .num

/-- The character that an escape letter stands for. -/
def unescape? : Char → Option Char
  | '"' => some '"'
  | '\\' => some '\\'
  | '/' => some '/'
  | 'b' => some '\x08'
  | 'f' => some '\x0c'
  | 'n' => some '\n'
  | 'r' => some '\r'
  | 't' => some '\t'
  | _ => none

/-- The mode after four hexadecimal digits: a character, or half of a surrogate pair. -/
def afterCode? (taken : List Char) (high : Option Nat) (n : Nat) : Option Mode :=
  match high with
  | some h =>
    if 0xdc00 ≤ n ∧ n < 0xe000 then
      (charOf? (0x10000 + (h - 0xd800) * 0x400 + (n - 0xdc00))).map fun c => .inText (c :: taken)
    else none
  | none =>
    if 0xd800 ≤ n ∧ n < 0xdc00 then some (.awaitLow taken n)
    else (charOf? n).map fun c => .inText (c :: taken)

/-- One character between tokens. -/
def stepBetween (c : Char) : Mode × List Token :=
  match markOf? c with
  | some m => (.between, [.mark m])
  | none =>
    if isBlank c then (.between, [])
    else if c == '"' then (.inText [], [])
    else (.word [c], [])

/-- One character: the next mode and the tokens that it completes. -/
def step? (mode : Mode) (c : Char) : Option (Mode × List Token) :=
  match mode with
  | .between => some (stepBetween c)
  | .word taken =>
    if isBlank c || (markOf? c).isSome || c == '"' then do
      let j ← ofWord? taken.reverse
      let (mode, tokens) := stepBetween c
      return (mode, .scalar j :: tokens)
    else some (.word (c :: taken), [])
  | .inText taken =>
    if c == '"' then some (.between, [.scalar (.str (String.ofList taken.reverse))])
    else if c == '\\' then some (.escape taken none, [])
    else if c.toNat < 0x20 then none
    else some (.inText (c :: taken), [])
  | .escape taken high =>
    if c == 'u' then some (.code taken high [], [])
    else if high.isSome then none
    else (unescape? c).map fun c => (.inText (c :: taken), [])
  | .code taken high digits =>
    if digits.length < 3 then
      (hexValue? c).map fun _ => (.code taken high (c :: digits), [])
    else do
      let n ← hexNumber? 0 (c :: digits).reverse
      return (← afterCode? taken high n, [])
  | .awaitLow taken high => if c == '\\' then some (.escape taken (some high), []) else none

/-- The tokens that the end of the document completes. -/
def finish? : Mode → Option (List Token)
  | .between => some []
  | .word taken => (ofWord? taken.reverse).map fun j => [.scalar j]
  | _ => none

end Token

end Proviso.Json
