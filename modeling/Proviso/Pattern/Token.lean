/-
  Proviso/Pattern/Token.lean
  ==========================
  **Tokens of a pattern.**

  Outside of classes a token is a character, an escape, a repetition, a bar or a piece of a
  group.  Inside, between `[` and `]`, it is a character, a range, an escape, an operation or a
  nested class.
-/
import Proviso.Pattern.Basic
import Proviso.Text.Digits

namespace Proviso.Pattern

/-- The properties of matching that a pattern can switch. -/
inductive Flag where
  | ignoreCase | multiLine | dotNewline
  deriving DecidableEq, Repr

/-- Operations on the sets inside a class. -/
inductive SetOp where
  | inter | diff | symmDiff
  deriving DecidableEq, Repr

/-- Kinds of groups: those that can be referred to by their number, or by a name as well, and
    those that only hold together what is inside, maybe under other flags. -/
inductive GroupKind where
  | numbered
  | named (name : List Char)
  | plain (changes : List (Flag × Bool))
  deriving DecidableEq, Repr

/-- A token of a pattern. -/
inductive Token where
  | char (c : Char)
  | range (first last : Char)
  | set (s : CharSet)
  | dot
  | caret
  | dollar
  | anchor (a : Anchor)
  | times (least : Nat) (most : Option Nat) (reluctant : Bool)
  | bar
  | openGroup (kind : GroupKind)
  | setFlags (changes : List (Flag × Bool))
  | closeGroup
  | openClass (negated : Bool)
  | setOp (op : SetOp)
  | closeClass
  deriving Repr

namespace Token

/-! ### Escapes -/

/-- What an escape stands for. -/
inductive Escape where
  | char (c : Char)
  | set (s : CharSet)
  | anchor (a : Anchor)
  deriving Repr

/-- The escape as a token. -/
def Escape.token : Escape → Token
  | .char c => .char c
  | .set s => .set s
  | .anchor a => .anchor a

/-- Takes a code point: `width` digits, or any number of them in braces. -/
def takeCodePoint? (width : Nat) (cs : List Char) : Option (Char × List Char) :=
  match cs with
  | '\x7b' :: rest =>
    let digits := rest.takeWhile (· != '\x7d')
    match rest.dropWhile (· != '\x7d') with
    | _ :: rest =>
      if digits.isEmpty then none
      else do return (← Text.charOf? (← Text.hexNumber? 0 digits), rest)
    | [] => none
  | _ =>
    let digits := cs.take width
    if digits.length < width then none
    else do return (← Text.charOf? (← Text.hexNumber? 0 digits), cs.drop width)

/-- Whether the character stands for itself behind a backslash: ASCII without letters and digits,
    and without the two marks kept for word boundaries. -/
def escapesItself (c : Char) : Bool :=
  c.toNat < 0x80 && !c.isAlphanum && c != '<' && c != '>'

/-- Takes an escape, behind its backslash. -/
def takeEscape? (cs : List Char) : Option (Escape × List Char) :=
  match cs with
  | [] => none
  | c :: rest =>
    let char (c : Char) := some (Escape.char c, rest)
    let set (s : CharSet) := some (Escape.set s, rest)
    let anchor (a : Anchor) := some (Escape.anchor a, rest)
    let codePoint (width : Nat) := (takeCodePoint? width rest).map fun r => (.char r.1, r.2)
    match c with
    | 'd' => set CharSet.digit
    | 'D' => set CharSet.digit.compl
    | 's' => set CharSet.blank
    | 'S' => set CharSet.blank.compl
    | 'w' => set CharSet.wordChar
    | 'W' => set CharSet.wordChar.compl
    | 'x' => codePoint 2
    | 'u' => codePoint 4
    | 'U' => codePoint 8
    | 'a' => char '\x07'
    | 'f' => char '\x0c'
    | 't' => char '\t'
    | 'n' => char '\n'
    | 'r' => char '\r'
    | 'v' => char '\x0b'
    | 'A' => anchor .textStart
    | 'z' => anchor .textEnd
    | 'b' => anchor .wordEdge
    | 'B' => anchor .noWordEdge
    | c => if escapesItself c then char c else none

/-! ### Repetitions -/

/-- The token of a repetition, which is reluctant if a question mark follows. -/
def repetition (least : Nat) (most : Option Nat) : List Char → Token × List Char
  | '?' :: rest => (.times least most true, rest)
  | rest => (.times least most false, rest)

abbrev maxCount : Nat := 0xffffffff

/-- Takes a count, which may stand between blanks. -/
def takeCount? (cs : List Char) : Option (Nat × List Char) :=
  let cs := cs.dropWhile Unicode.isBlank
  let digits := cs.takeWhile Char.isDigit
  let n := Text.decimalNumber digits
  if digits.isEmpty || maxCount < n then none
  else some (n, (cs.dropWhile Char.isDigit).dropWhile Unicode.isBlank)

/-- Takes a counted repetition, behind its opening brace. -/
def takeCounted? (cs : List Char) : Option (Token × List Char) := do
  let (least, rest) ← takeCount? cs
  match rest with
  | '\x7d' :: rest => some (repetition least (some least) rest)
  | ',' :: '\x7d' :: rest => some (repetition least none rest)
  | ',' :: rest =>
    match ← takeCount? rest with
    | (most, '\x7d' :: rest) =>
      if least ≤ most then some (repetition least (some most) rest) else none
    | _ => none
  | _ => none

/-! ### Groups -/

/-- The flag with a letter. -/
def flagOf? : Char → Option Flag
  | 'i' => some .ignoreCase
  | 'm' => some .multiLine
  | 's' => some .dotNewline
  | _ => none

/-- Takes flags up to a colon or a closing parenthesis.  A flag occurs once; a minus turns off
    the flags behind it, of which there is at least one. -/
def takeFlags? (negated : Bool) (changes : List (Flag × Bool)) :
    List Char → Option (Token × List Char)
  | [] => none
  | c :: rest =>
    let dangling := negated && changes.all (·.2)
    if c == ':' then if dangling then none else some (.openGroup (.plain changes), rest)
    else if c == ')' then
      if dangling || changes.isEmpty then none else some (.setFlags changes, rest)
    else if c == '-' then if negated then none else takeFlags? true changes rest
    else match flagOf? c with
      | some f =>
        if changes.any (·.1 == f) then none
        else takeFlags? negated (changes ++ [(f, !negated)]) rest
      | none => none

/-- Whether the characters name a group: a letter or low line, then also numerals, points and
    brackets. -/
def isGroupName : List Char → Bool
  | [] => false
  | c :: rest =>
    (c == '_' || Unicode.isAlphabetic c) &&
      rest.all fun c => c == '_' || c == '.' || c == '[' || c == ']' || Unicode.isAlphanumeric c

/-- Takes the name of a group, behind its opening bracket. -/
def takeNamed? (cs : List Char) : Option (Token × List Char) :=
  let name := cs.takeWhile (· != '>')
  match cs.dropWhile (· != '>') with
  | _ :: rest => if isGroupName name then some (.openGroup (.named name), rest) else none
  | [] => none

/-- Takes the opening of a group, behind its parenthesis.  Looking around is not supported. -/
def takeGroup? (cs : List Char) : Option (Token × List Char) :=
  match cs with
  | '?' :: '=' :: _ | '?' :: '!' :: _ | '?' :: '<' :: '=' :: _ | '?' :: '<' :: '!' :: _ => none
  | '?' :: 'P' :: '<' :: rest | '?' :: '<' :: rest => takeNamed? rest
  | '?' :: rest => takeFlags? false [] rest
  | rest => some (.openGroup .numbered, rest)

/-! ### Classes -/

/-- Takes the opening of a class, behind its bracket: hyphens in front stand for themselves, and
    so does a closing bracket that comes first. -/
def takeClass (cs : List Char) : List Token × List Char :=
  let (negated, cs) := match cs with
    | '^' :: rest => (true, rest)
    | _ => (false, cs)
  let hyphens := (cs.takeWhile (· == '-')).map Token.char
  let (brackets, rest) := match hyphens, cs.dropWhile (· == '-') with
    | [], ']' :: rest => ([Token.char ']'], rest)
    | _, rest => ([], rest)
  (.openClass negated :: (hyphens ++ brackets), rest)

/-- Takes one character or escape of a class. -/
def takeMember? (cs : List Char) : Option (Escape × List Char) :=
  match cs with
  | [] => none
  | '\\' :: rest => takeEscape? rest
  | c :: rest => some (.char c, rest)

/-- Takes a range, a character or an escape of a class.  A hyphen makes a range unless the class
    ends behind it or another hyphen follows. -/
def takeItem? (cs : List Char) : Option (Token × List Char) := do
  let (first, rest) ← takeMember? cs
  let single : Option (Token × List Char) := match first with
    | .anchor _ => none
    | e => some (e.token, rest)
  match rest with
  | '-' :: ']' :: _ | '-' :: '-' :: _ => single
  | '-' :: rest =>
    match first, ← takeMember? rest with
    | .char a, (.char b, rest) => if a ≤ b then some (.range a b, rest) else none
    | _, _ => none
  | _ => single

/-! ### The next tokens -/

/-- The row of one token. -/
def alone (r : Token × List Char) : List Token × List Char := ([r.1], r.2)

/-- Takes the next tokens outside of classes. -/
def takeOutside? (c : Char) (rest : List Char) : Option (List Token × List Char) :=
  match c with
  | '(' => (takeGroup? rest).map alone
  | ')' => some ([.closeGroup], rest)
  | '|' => some ([.bar], rest)
  | '[' => some (takeClass rest)
  | '?' => some (alone (repetition 0 (some 1) rest))
  | '*' => some (alone (repetition 0 none rest))
  | '+' => some (alone (repetition 1 none rest))
  | '\x7b' => (takeCounted? rest).map alone
  | '.' => some ([.dot], rest)
  | '^' => some ([.caret], rest)
  | '$' => some ([.dollar], rest)
  | '\\' => (takeEscape? rest).map fun (e, rest) => ([e.token], rest)
  | c => some ([.char c], rest)

/-- Takes the next tokens inside of a class. -/
def takeInside? (cs : List Char) : Option (List Token × List Char) :=
  match cs with
  | ']' :: rest => some ([.closeClass], rest)
  | '[' :: rest => some (takeClass rest)
  | '&' :: '&' :: rest => some ([.setOp .inter], rest)
  | '-' :: '-' :: rest => some ([.setOp .diff], rest)
  | '~' :: '~' :: rest => some ([.setOp .symmDiff], rest)
  | cs => (takeItem? cs).map alone

/-- The number of open classes behind the tokens. -/
def classDepth (depth : Nat) (tokens : List Token) : Nat :=
  tokens.foldl (fun d t => match t with
    | .openClass _ => d + 1
    | .closeClass => d - 1
    | _ => d) depth

/-- The tokens of a pattern, with `depth` classes open in front, read in at most `steps` steps. -/
def readFrom? : Nat → Nat → List Char → Option (List Token)
  | _, depth, [] => if depth = 0 then some [] else none
  | 0, _, _ :: _ => none
  | steps + 1, depth, c :: rest => do
    let (tokens, later) ← if depth = 0 then takeOutside? c rest else takeInside? (c :: rest)
    return tokens ++ (← readFrom? steps (classDepth depth tokens) later)

/-- The tokens of a pattern.  A step takes a character at least, so there are steps enough. -/
def read? (cs : List Char) : Option (List Token) := readFrom? cs.length 0 cs

end Token

end Proviso.Pattern
