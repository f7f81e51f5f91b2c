/-
  Proviso/Settings.lean
  =====================
  **Settings**: the options of an instruction as far as they are specified.

  They are read from keys at the root of an instruction, where a key counts only with the values
  given for it below, or set on the instruction from outside.  What is specified first wins, and
  a default for failed values always keeps the validation from failing.
-/
import Proviso.Registry.Basic

namespace Proviso

/-- Computes a default from the report of a failed validation and the registry in use; the error
    is a text. -/
abbrev Provider := Report → Registry → Logged String Json

/-- What is handed out in place of a value that fails. -/
inductive Default where
  | value (j : Json)
  | computed (provider : Provider)

/-- What a report says of the default. -/
def Default.note : Default → DefaultNote
  | .value j => .value j
  | .computed _ => .computed

/-- Options as far as they are specified. -/
structure Settings where
  throwOnFailure : Option Bool := none
  allowAbsent : Option Bool := none
  default : Option Default := none
  returnFullResult : Option Bool := none
  debug : Option Bool := none

/-- The keys that hold options. -/
inductive OptionKey where
  | throwOnFailure | allowAbsent | defaultValue | returnFullResult | debug
  deriving DecidableEq, Repr

namespace OptionKey

def text : OptionKey → String
  | .throwOnFailure => "throw_on_failure"
  | .allowAbsent => "allow_absent"
  | .defaultValue => "default_value"
  | .returnFullResult => "return_full_result"
  | .debug => "debug"

def all : List OptionKey :=
  [.throwOnFailure, .allowAbsent, .defaultValue, .returnFullResult, .debug]

end OptionKey

/-- Whether a key holds an option. -/
def isOptionKey (key : String) : Bool := OptionKey.all.any (·.text == key)

namespace Settings

/-- A truth value that counts only if it is `expected`. -/
def onlyBool (expected : Bool) (j : Option Json) : Option Bool :=
  (j.bind Json.bool?).filter (· == expected)

/-- The settings in the keys of an object. -/
def ofMembers (members : List (String × Json)) : Settings where
  throwOnFailure := onlyBool false (members.lookup OptionKey.throwOnFailure.text)
  allowAbsent := onlyBool true (members.lookup OptionKey.allowAbsent.text)
  default := (members.lookup OptionKey.defaultValue.text).map .value
  returnFullResult := (members.lookup OptionKey.returnFullResult.text).bind Json.bool?
  debug := onlyBool true (members.lookup OptionKey.debug.text)

/-- Fills what `s` leaves open from `later`. -/
def orElse (s later : Settings) : Settings where
  throwOnFailure := s.throwOnFailure.or later.throwOnFailure
  allowAbsent := s.allowAbsent.or later.allowAbsent
  default := s.default.or later.default
  returnFullResult := s.returnFullResult.or later.returnFullResult
  debug := s.debug.or later.debug

def isEmpty (s : Settings) : Bool :=
  s.throwOnFailure.isNone && s.allowAbsent.isNone && s.default.isNone &&
    s.returnFullResult.isNone && s.debug.isNone

/-- The options in effect. -/
def resolve (s : Settings) : Options where
  throwOnFailure := s.default.isNone && s.throwOnFailure.getD true
  allowAbsent := s.allowAbsent.getD false
  default := s.default.map Default.note
  returnFullResult := s.returnFullResult.getD false
  debug := s.debug.getD false

theorem orElse_assoc (a b c : Settings) : (a.orElse b).orElse c = a.orElse (b.orElse c) := by
  simp [orElse, Option.or_assoc]

theorem empty_orElse (a : Settings) : ({} : Settings).orElse a = a := rfl

theorem orElse_empty (a : Settings) : a.orElse {} = a := by
  simp [orElse]

end Settings

end Proviso
